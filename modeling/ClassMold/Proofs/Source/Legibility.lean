import ClassMold.Proofs.Inference.Mirroring
import ClassMold.Proofs.Source.Parts

/-! Classes whose source can be told apart line by line. A class is legible if its
name and the names and types of its fields are free of punctuation; every class of a
tree that was inferred is. Then no line of a field or a method can pass for a brace,
for a class declaration or for several lines, whatever the key behind it. -/
namespace ClassMold.Legibility
open Alphabet StringLiterals Parts TypeNames Steps Mirroring

/-- The ways in which a class declaration starts. -/
def classStarts : List Text := ["public final class ", "public static final class "]

/-- What indents a line, and the braces. -/
def layoutMarks : List CodePoint := [.scalar '\t', .scalar '\x7b', .scalar '\x7d']

/-- What stands behind the tabs of a line that is neither blank nor a brace nor the
declaration of a class. -/
structure IsContent (line : Text) : Prop where
  inLine : InLine line
  marked : ∃ first, line.head? = some first ∧ first ∉ layoutMarks
  noClass : ∀ start ∈ classStarts, ¬ start <+: line

/-- A field that punctuation cannot enter. -/
structure LegibleField (f : Field) : Prop where
  name : IsWord f.name
  type : IsWord f.typeName
  notClass : f.typeName ≠ "class"
  depth : 0 ≤ f.arrayDepth

/-- A class that punctuation cannot enter. -/
structure Legible (c : ClassTree) : Prop where
  name : IsWord c.name
  depth : 0 ≤ c.depth
  fields : ∀ f ∈ c.fields, LegibleField f

variable {f : Field} {line name rest : Text} {boxed : Bool}

/-! ### Types and parameters -/

theorem element_type_cases (f : Field) (boxed : Bool) :
    f.elementType boxed = f.typeName ∨ ∃ type : ScalarType, f.elementType boxed = type.boxedName := by
  cases boxed with
  | false => exact .inl rfl
  | true =>
    cases named : ScalarType.named? f.typeName with
    | none => exact .inl (by simp [Field.elementType, named])
    | some type => exact .inr ⟨type, by simp [Field.elementType, named]⟩

theorem element_type_word (legible : LegibleField f) : IsWord (f.elementType boxed) := by
  rcases element_type_cases f boxed with same | ⟨type, same⟩ <;> rw [same]
  · exact legible.type
  · cases type <;> decide

theorem element_type_ne_class (legible : LegibleField f) : f.elementType boxed ≠ "class" := by
  rcases element_type_cases f boxed with same | ⟨type, same⟩ <;> rw [same]
  · exact legible.notClass
  · cases type <;> decide

/-- The brackets of an array type. -/
def brackets (depth : Int) : Text := (List.replicate depth.toNat (Text.ofString "[]")).flatten

theorem declared_type_eq (f : Field) (boxed : Bool) :
    f.declaredType boxed = f.elementType boxed ++ brackets f.arrayDepth := rfl

theorem brackets_start (depth : Int) (rest : Text) :
    ∃ mark tail, brackets depth ++ .scalar ' ' :: rest = mark :: tail ∧ ¬ IsWordPart mark := by
  unfold brackets
  cases depth.toNat with
  | zero => exact ⟨_, _, rfl, by decide⟩
  | succ n => exact ⟨_, _, rfl, by decide⟩

theorem brackets_in_line (depth : Int) : InLine (brackets depth) := by
  unfold brackets
  induction depth.toNat with
  | zero => exact in_line_nil
  | succ n ih =>
    rw [List.replicate_succ, List.flatten_cons, in_line_append]
    exact ⟨by decide, ih⟩

theorem declared_type_in_line (legible : LegibleField f) : InLine (f.declaredType boxed) := by
  rw [declared_type_eq, in_line_append]
  exact ⟨word_in_line (element_type_word legible), brackets_in_line f.arrayDepth⟩

theorem default_in_line (f : Field) (boxed : Bool) : InLine (f.defaultLiteral boxed) := by
  unfold Field.defaultLiteral
  split
  · decide
  · cases ScalarType.named? f.typeName with
    | none => decide
    | some type => cases type <;> decide

theorem parameter_in_line (options : OutputOptions) (legible : LegibleField f) :
    InLine (f.parameter options) := by
  simp [Field.parameter, Text.ofString, declared_type_in_line legible, word_in_line legible.name]

/-! ### Contents -/

/-- A line does not start as another text does from which it differs in one place. -/
theorem not_prefix_at {text start : Text} (place : Nat) (mark : CodePoint)
    (shown : text[place]? = some mark) (differs : start[place]?.any (· ≠ mark) = true) :
    ¬ start <+: text := by
  rintro ⟨rest, whole⟩
  cases stands : start[place]? with
  | none => simp [stands] at differs
  | some c =>
    have inside : place < start.length := (List.getElem?_eq_some_iff.mp stands).1
    rw [← whole, List.getElem?_append_left inside, stands] at shown
    simp [stands, Option.some.inj shown] at differs

/-- A line with another code point than class declarations in one place is a content
if it does not start like a brace or an indentation. -/
theorem content_at (place : Nat) (mark first : CodePoint) {text : Text} (inLine : InLine text)
    (head : text.head? = some first) (plain : first ∉ layoutMarks) (shown : text[place]? = some mark)
    (differs : ∀ start ∈ classStarts, start[place]?.any (· ≠ mark) = true) : IsContent text :=
  ⟨inLine, ⟨first, head, plain⟩,
    fun start listed => not_prefix_at place mark shown (differs start listed)⟩

theorem key_line_content (f : Field) : IsContent (keyLine f) := by
  have literal : InLine f.key.literal := fun c => literal_in_line f.key
  refine content_at 0 (.scalar '@') (.scalar '@') ?_ rfl (by decide) rfl (by decide)
  simp [keyLine, Text.ofString, literal]

theorem declaration_content (options : OutputOptions) (legible : LegibleField f) :
    IsContent (declaration options f) := by
  have type : InLine (f.declaredType options.boxedPrimitives) := declared_type_in_line legible
  have name := word_in_line legible.name
  unfold declaration
  cases options.finalFields <;>
    refine content_at 1 (.scalar 'r') (.scalar 'p') ?_ rfl (by decide) rfl (by decide) <;>
    simp [Text.ofString, type, name]

/-- After the first word of a class declaration comes another word, and then a space. -/
theorem class_start_words : ∀ start ∈ classStarts, ∃ modifier more, IsWord modifier ∧
    start = Text.ofString "public " ++ (modifier ++ .scalar ' ' :: more) := by
  simp only [classStarts, List.mem_cons, List.not_mem_nil, or_false, forall_eq_or_imp, forall_eq]
  exact ⟨⟨Text.ofString "final", "class ", by decide, by decide⟩,
    ⟨Text.ofString "static", "final class ", by decide, by decide⟩⟩

/-- A constructor's name ends at a bracket. -/
theorem no_class_constructor (word : IsWord name) (rest : Text) :
    ∀ start ∈ classStarts, ¬ start <+: "public " ++ (name ++ .scalar '(' :: rest) := by
  intro start listed
  obtain ⟨modifier, more, small, rfl⟩ := class_start_words start listed
  rw [List.prefix_append_right_inj]
  rintro ⟨tail, whole⟩
  rw [List.append_assoc] at whole
  have marks := (word_ends small word (by decide) (by decide) whole).2.1
  exact absurd marks (by decide)

/-- A getter's type would have to be a reserved word. -/
theorem no_class_getter (legible : LegibleField f) (rest : Text) :
    ∀ start ∈ classStarts,
      ¬ start <+: "public final " ++ (f.declaredType boxed ++ .scalar ' ' :: rest) := by
  have outer : Text.ofString "public final class " =
      Text.ofString "public final " ++ (Text.ofString "class" ++ .scalar ' ' :: []) := by decide
  simp only [classStarts, List.mem_cons, List.not_mem_nil, or_false, forall_eq_or_imp, forall_eq]
  constructor
  · rw [outer, List.prefix_append_right_inj]
    rintro ⟨tail, whole⟩
    obtain ⟨mark, others, shape, ends⟩ := brackets_start f.arrayDepth rest
    rw [declared_type_eq, List.append_assoc, List.append_assoc, shape] at whole
    have named := (word_ends (by decide) (element_type_word legible) (by decide) ends whole).1
    exact element_type_ne_class legible named.symm
  · exact not_prefix_at 7 (.scalar 'f') rfl (by decide)

/-- An assignment goes on with a sign behind its first word. -/
theorem no_class_assignment (word : IsWord name) (rest : Text) :
    ∀ start ∈ classStarts, ¬ start <+: name ++ .scalar ' ' :: .scalar '=' :: rest := by
  intro start listed
  obtain ⟨modifier, more, small, rfl⟩ := class_start_words start listed
  have first : Text.ofString "public " = Text.ofString "public" ++ [.scalar ' '] := by decide
  rintro ⟨tail, whole⟩
  rw [first, List.append_assoc, List.append_assoc, List.singleton_append, List.append_assoc] at whole
  have after := (word_ends (by decide) word (by decide) (by decide) whole).2.2
  have marks := (word_ends small is_word_nil (by decide) (by decide) after).2.1
  exact absurd marks (by decide)

/-! ### Methods -/

/-- A method of names that punctuation cannot enter. -/
def LegibleMethod : Method → Prop
  | .fullConstructor name fields => IsWord name ∧ ∀ f ∈ fields, LegibleField f
  | .emptyConstructor name fields => IsWord name ∧ ∀ f ∈ fields, LegibleField f
  | .getter f => LegibleField f
  | .setter f => LegibleField f

theorem methods_legible (options : OutputOptions) {fields : List Field} (word : IsWord name)
    (each : ∀ f ∈ fields, LegibleField f) : ∀ m ∈ methods options name fields, LegibleMethod m :=
  methods_all ⟨word, each⟩ ⟨word, each⟩ each each

theorem assignment_content (legible : LegibleField f) : IsContent f.assignment := by
  refine content_at 0 (.scalar 't') (.scalar 't') ?_ rfl (by decide) rfl (by decide)
  simp [Field.assignment, Text.ofString, word_in_line legible.name]

theorem default_assignment_content (options : OutputOptions) (legible : LegibleField f) :
    IsContent (f.defaultAssignment options) := by
  have value := default_in_line f options.boxedPrimitives
  have shape : f.defaultAssignment options = f.name ++ .scalar ' ' :: .scalar '=' ::
      (.scalar ' ' :: f.defaultLiteral options.boxedPrimitives ++ [.scalar ';']) := by
    simp [Field.defaultAssignment, Text.ofString]
  rw [shape]
  refine ⟨by simp [word_in_line legible.name, value], ?_, no_class_assignment legible.name _⟩
  cases stands : f.name with
  | nil => exact ⟨_, rfl, by decide⟩
  | cons first others =>
    have marks : ∀ mark ∈ layoutMarks, ¬ IsWordPart mark := by decide
    exact ⟨first, rfl, fun listed => marks first listed (legible.name first (by simp [stands]))⟩

theorem constructor_content (word : IsWord name) {parameters : Text} (inLine : InLine parameters) :
    IsContent ("public " ++ (name ++ .scalar '(' :: parameters)) :=
  ⟨by simp [Text.ofString, word_in_line word, inLine], ⟨_, rfl, by decide⟩,
    no_class_constructor word parameters⟩

theorem header_content (options : OutputOptions) {m : Method} (legible : LegibleMethod m) :
    IsContent (m.header options) := by
  cases m with
  | fullConstructor name fields =>
    have parameters : InLine (Text.joinWith ", " (fields.map (·.parameter options)) ++ ")") := by
      refine in_line_append.mpr ⟨in_line_join (by decide) ?_, by decide⟩
      intro part listed
      obtain ⟨f, member, rfl⟩ := List.mem_map.mp listed
      exact parameter_in_line options (legible.2 f member)
    simpa [Method.header, Text.ofString] using constructor_content legible.1 parameters
  | emptyConstructor name fields =>
    have parameters : InLine ")" := by decide
    simpa [Method.header, Text.ofString] using constructor_content legible.1 parameters
  | getter f =>
    have legible : LegibleField f := legible
    have type : InLine (f.declaredType options.boxedPrimitives) := declared_type_in_line legible
    have accessor := word_in_line (capitalized_word legible.name)
    have shape : (Method.getter f).header options = Text.ofString "public final " ++
        (f.declaredType options.boxedPrimitives ++ .scalar ' ' ::
          (Text.ofString "get" ++ f.accessorName ++ Text.ofString "()")) := by
      simp [Method.header, Text.ofString]
    rw [shape]
    refine ⟨?_, ⟨_, rfl, by decide⟩, no_class_getter legible _⟩
    simp [Text.ofString, Field.accessorName, type, accessor]
  | setter f =>
    have legible : LegibleField f := legible
    have accessor := word_in_line (capitalized_word legible.name)
    refine content_at 13 (.scalar 'v') (.scalar 'p') ?_ rfl (by decide) rfl (by decide)
    simp [Method.header, Text.ofString, Field.accessorName, accessor, parameter_in_line options legible]

theorem body_content (options : OutputOptions) {m : Method} (legible : LegibleMethod m) :
    ∀ line ∈ m.body options, IsContent line := by
  cases m with
  | fullConstructor name fields =>
    intro line listed
    obtain ⟨f, member, rfl⟩ := List.mem_map.mp listed
    exact assignment_content (legible.2 f member)
  | emptyConstructor name fields =>
    intro line listed
    rw [Method.body] at listed
    split at listed
    · have arguments : InLine (Text.joinWith ", "
          (fields.map (·.defaultLiteral options.boxedPrimitives))) := by
        refine in_line_join (by decide) fun part inside => ?_
        obtain ⟨f, -, rfl⟩ := List.mem_map.mp inside
        exact default_in_line f options.boxedPrimitives
      rw [List.mem_singleton.mp listed]
      refine content_at 0 (.scalar 't') (.scalar 't') ?_ rfl (by decide) rfl (by decide)
      simp only [in_line_append, arguments, and_true]
      decide
    · obtain ⟨f, member, rfl⟩ := List.mem_map.mp listed
      exact default_assignment_content options (legible.2 f member)
  | getter f =>
    have legible : LegibleField f := legible
    intro line listed
    rw [List.mem_singleton.mp listed]
    refine content_at 0 (.scalar 'r') (.scalar 'r') ?_ rfl (by decide) rfl (by decide)
    simp [Text.ofString, word_in_line legible.name]
  | setter f =>
    intro line listed
    rw [List.mem_singleton.mp listed]
    exact assignment_content legible

/-! ### Trees of samples -/

variable {key : Text} {value : Sample} {depth : Int} {members : List (Text × Sample)}
  {fields : List Field} {nested : List ClassTree} {c : ClassTree}

theorem element_name_cases (key : Text) (value : Sample) :
    elementName key value = typeName key ∨ elementName key value = singular (typeName key) := by
  unfold elementName Field.className
  split
  · exact .inr rfl
  · exact .inl rfl

theorem element_name_word (key : Text) (value : Sample) : IsWord (elementName key value) := by
  rcases element_name_cases key value with same | same <;> rw [same]
  · exact type_name_word key
  · exact singular_word (type_name_word key)

/-- No key gives a class the name of a word that the language spells in small letters. -/
theorem element_name_ne_small (key : Text) (value : Sample) {word : Text}
    (small : ∃ first ∈ word.head?, Casing.AsciiSmall first) : elementName key value ≠ word := by
  obtain ⟨first, starts, low⟩ := small
  obtain ⟨rest, rfl⟩ := List.head?_eq_some_iff.mp starts
  intro named
  rcases element_name_cases key value with same | same <;> rw [same] at named
  · exact type_name_start named low
  · exact singular_start named low

theorem member_field_legible {type : Text} (word : IsWord type) (notClass : type ≠ "class") :
    LegibleField (memberField key value type) :=
  ⟨field_name_word key _, word, notClass, Int.natCast_nonneg _⟩

theorem fixed_type_legible {type : Text} (fixed : type ∈ fixedTypes) :
    IsWord type ∧ type ≠ "class" := by
  have table : ∀ type ∈ fixedTypes, IsWord type ∧ type ≠ "class" := by decide
  exact table type fixed

/-- What a class owes to legibility, its own name and depth apart. -/
structure LegibleInside (c : ClassTree) : Prop where
  fields : ∀ f ∈ c.fields, LegibleField f
  names : ∀ inner ∈ c.nested, IsWord inner.name
  depths : ∀ inner ∈ c.nested, inner.depth = c.depth + 1

theorem built_legible (name : Text) (built : Built depth members fields nested) :
    LegibleInside (.node name depth fields nested) := by
  induction built with
  | nil => exact ⟨nofun, nofun, nofun⟩
  | plain plain fixed rest ih =>
    obtain ⟨word, notClass⟩ := fixed_type_legible fixed
    exact ⟨List.forall_mem_cons.mpr ⟨member_field_legible word notClass, ih.fields⟩, ih.names, ih.depths⟩
  | @classed key value inner members fields c nested classed ran rest ih =>
    have legible : LegibleField (classField key value) :=
      ⟨field_name_word key _, element_name_word key value, element_name_ne_small key value (by decide),
        Int.natCast_nonneg _⟩
    obtain ⟨named, placed⟩ := class_name_depth ran
    exact ⟨List.forall_mem_cons.mpr ⟨legible, ih.fields⟩,
      List.forall_mem_cons.mpr ⟨named ▸ element_name_word key value, ih.names⟩,
      List.forall_mem_cons.mpr ⟨placed, ih.depths⟩⟩

/-- What the root of a tree has, and every class hands on to the classes nested in
it, all classes of the tree have. -/
theorem walk_inherits {Q : ClassTree → Prop} {c : ClassTree} (root : Q c)
    (inherits : ∀ d ∈ c.walk, Q d → ∀ inner ∈ d.nested, Q inner) : ∀ d ∈ c.walk, Q d := by
  refine (ClassTree.walk.mutual_induct
    (fun c => Q c → (∀ d ∈ c.walk, Q d → ∀ inner ∈ d.nested, Q inner) → ∀ d ∈ c.walk, Q d)
    (fun cs => (∀ c ∈ cs, Q c) → (∀ d ∈ ClassTree.walkAll cs, Q d → ∀ inner ∈ d.nested, Q inner) →
      ∀ d ∈ ClassTree.walkAll cs, Q d) ?_ ?_ ?_).1 c root inherits
  · intro name depth fields nested ih root inherits
    rw [ClassTree.walk, List.forall_mem_cons] at inherits
    rw [ClassTree.walk, List.forall_mem_cons]
    exact ⟨root, ih (inherits.1 root) inherits.2⟩
  · intro _ _ d listed
    cases listed
  · intro c rest ih ihRest roots inherits
    rw [List.forall_mem_cons] at roots
    rw [ClassTree.walkAll, List.forall_mem_append] at inherits
    rw [ClassTree.walkAll, List.forall_mem_append]
    exact ⟨ih roots.1 inherits.1, ihRest roots.2 inherits.2⟩

theorem inferred_legible_inside {sample : Sample}
    (ran : (inferClass name depth sample).outcome = .ok c) : ∀ d ∈ c.walk, LegibleInside d :=
  every_walked LegibleInside (fun name _ _ _ _ built => built_legible name built) ran

/-- Every class inferred for a name without punctuation is legible. -/
theorem inferred_legible {sample : Sample} (word : IsWord name) (placed : 0 ≤ depth)
    (ran : (inferClass name depth sample).outcome = .ok c) : ∀ d ∈ c.walk, Legible d := by
  have inside := inferred_legible_inside ran
  have own : ∀ d ∈ c.walk, IsWord d.name ∧ 0 ≤ d.depth := by
    refine walk_inherits ?_ fun d walked own inner nested => ?_
    · obtain ⟨named, deep⟩ := class_name_depth ran
      exact ⟨named ▸ word, deep ▸ placed⟩
    · have below := (inside d walked).depths inner nested
      exact ⟨(inside d walked).names inner nested, by omega⟩
  exact fun d walked => ⟨(own d walked).1, (own d walked).2, (inside d walked).fields⟩

end ClassMold.Legibility
