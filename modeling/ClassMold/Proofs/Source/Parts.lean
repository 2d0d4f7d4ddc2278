import ClassMold.Source
import ClassMold.Proofs.Naming.Alphabet
import ClassMold.Proofs.Source.StringLiterals

/-! The parts that the text of a class is made of. Behind the declarations of its
fields come its methods, all of one form, and whatever a line of either holds behind
its tabs is no brace, is no class declaration and does not break the line. This is
shown once, line by line; what is proved about whole sources rests on it. -/
namespace ClassMold.Parts
open Alphabet StringLiterals CodePoint

/-! ### Fields -/

/-- The annotation of a field. -/
def keyLine (f : Field) : Text := "@SerializedName(" ++ f.key.literal ++ ")"

/-- The declaration of a field. -/
def declaration (options : OutputOptions) (f : Field) : Text :=
  (if options.finalFields then Text.ofString "private final " else "private ") ++
    (f.declaredType options.boxedPrimitives ++ .scalar ' ' :: (f.name ++ [.scalar ';']))

theorem declaration_lines (options : OutputOptions) (tabs : Text) (f : Field) :
    f.declarationLines tabs options =
      [[], tabs ++ keyLine f, tabs ++ declaration options f] := by
  unfold Field.declarationLines keyLine declaration
  cases options.finalFields <;> simp [Text.ofString]

/-! ### Methods -/

/-- A member with a body: a constructor or an accessor. -/
inductive Method where
  | fullConstructor (name : Text) (fields : List Field)
  | emptyConstructor (name : Text) (fields : List Field)
  | getter (f : Field)
  | setter (f : Field)

namespace Method

/-- The line above the body. -/
def header (options : OutputOptions) : Method → Text
  | fullConstructor name fields =>
    "public " ++ name ++ "(" ++ Text.joinWith ", " (fields.map (·.parameter options)) ++ ")"
  | emptyConstructor name _ => "public " ++ name ++ "()"
  | getter f =>
    "public final " ++ f.declaredType options.boxedPrimitives ++ " get" ++ f.accessorName ++ "()"
  | setter f => "public final void set" ++ f.accessorName ++ "(" ++ f.parameter options ++ ")"

/-- The lines of the body. -/
def body (options : OutputOptions) : Method → List Text
  | fullConstructor _ fields => fields.map Field.assignment
  | emptyConstructor _ fields =>
    if options.fieldConstructor then
      ["this(" ++ Text.joinWith ", " (fields.map (·.defaultLiteral options.boxedPrimitives)) ++ ");"]
    else fields.map (·.defaultAssignment options)
  | getter f => ["return " ++ f.name ++ ";"]
  | setter f => [f.assignment]

/-- The lines of a method. -/
def lines (options : OutputOptions) (tabs : Text) (m : Method) : List Text :=
  bracedLines tabs (m.header options) (m.body options)

end Method

/-- The constructors of a class. -/
def constructors (options : OutputOptions) (name : Text) (fields : List Field) : List Method :=
  (if options.fieldConstructor then [.fullConstructor name fields] else []) ++
  (if options.finalFields then [.emptyConstructor name fields] else [])

/-- The accessors of a field. -/
def accessors (options : OutputOptions) (f : Field) : List Method :=
  (if options.getters then [.getter f] else []) ++ (if options.setters then [.setter f] else [])

/-- The methods of a class in their order. -/
def methods (options : OutputOptions) (name : Text) (fields : List Field) : List Method :=
  constructors options name fields ++ fields.flatMap (accessors options)

theorem method_cases {options : OutputOptions} {name : Text} {fields : List Field} {m : Method}
    (listed : m ∈ methods options name fields) :
    m = .fullConstructor name fields ∨ m = .emptyConstructor name fields ∨
      ∃ f ∈ fields, m = .getter f ∨ m = .setter f := by
  simp only [methods, constructors, accessors, List.mem_append, List.mem_flatMap,
    List.mem_ite_nil_right, List.mem_singleton] at listed
  rcases listed with (⟨-, full⟩ | ⟨-, empty⟩) | ⟨f, member, ⟨-, getter⟩ | ⟨-, setter⟩⟩
  · exact .inl full
  · exact .inr (.inl empty)
  · exact .inr (.inr ⟨f, member, .inl getter⟩)
  · exact .inr (.inr ⟨f, member, .inr setter⟩)

/-- What holds of both constructors and of the accessors of every field holds of all methods. -/
theorem methods_all {options : OutputOptions} {name : Text} {fields : List Field} {P : Method → Prop}
    (full : P (.fullConstructor name fields)) (empty : P (.emptyConstructor name fields))
    (getters : ∀ f ∈ fields, P (.getter f)) (setters : ∀ f ∈ fields, P (.setter f)) :
    ∀ m ∈ methods options name fields, P m := by
  intro m listed
  rcases method_cases listed with rfl | rfl | ⟨f, member, rfl | rfl⟩
  · exact full
  · exact empty
  · exact getters f member
  · exact setters f member

theorem constructor_lines (options : OutputOptions) (name tabs : Text) (fields : List Field) :
    constructorLines name fields tabs options =
      (constructors options name fields).flatMap (·.lines options tabs) := by
  unfold constructorLines constructors
  cases options.fieldConstructor <;> cases options.finalFields <;>
    simp [Method.lines, Method.header, Method.body, fullConstructorLines, emptyConstructorLines]

theorem accessor_lines (options : OutputOptions) (tabs : Text) (f : Field) :
    f.accessorLines tabs options = (accessors options f).flatMap (·.lines options tabs) := by
  unfold Field.accessorLines accessors
  cases options.getters <;> cases options.setters <;>
    simp [Method.lines, Method.header, Method.body]

/-- The constructors of a class and the accessors of its fields are its methods. -/
theorem method_lines (options : OutputOptions) (name tabs : Text) (fields : List Field) :
    (methods options name fields).flatMap (·.lines options tabs) =
      constructorLines name fields tabs options ++ fields.flatMap (·.accessorLines tabs options) := by
  simp [methods, constructor_lines, accessor_lines, List.flatMap_assoc]

/-- A class, part by part: its first line, its fields, its methods and its nested classes. -/
theorem class_lines (options : OutputOptions) (name : Text) (depth : Int) (fields : List Field)
    (nested : List ClassTree) :
    (ClassTree.node name depth fields nested).lines options =
      (indentation depth ++ classHeader name depth) :: (indentation depth ++ openBrace) ::
        (fields.flatMap (·.declarationLines (indentation (depth + 1)) options) ++
          (methods options name fields).flatMap (·.lines options (indentation (depth + 1))) ++
          ClassTree.nestedLines options nested ++ [indentation depth ++ closeBrace]) := by
  simp [ClassTree.lines, method_lines]

/-! ### Lines and texts -/

/-- A text without a line end. -/
def InLine (t : Text) : Prop := ∀ c ∈ t, c ∉ lineEnds

instance : DecidablePred InLine := fun t => inferInstanceAs (Decidable (∀ c ∈ t, c ∉ lineEnds))

variable {t u : Text} {lines : List Text}

@[simp] theorem in_line_nil : InLine [] := fun _ listed => absurd listed List.not_mem_nil

@[simp] theorem in_line_cons {c : CodePoint} :
    InLine (c :: t) ↔ (c ≠ .scalar '\n' ∧ c ≠ .scalar '\r') ∧ InLine t := by
  simp [InLine, lineEnds]

@[simp] theorem in_line_append : InLine (t ++ u) ↔ InLine t ∧ InLine u := List.forall_mem_append

/-- A joined text is made of its parts and of separators. -/
theorem join_all {P : CodePoint → Prop} (separator : ∀ c ∈ t, P c)
    (each : ∀ part ∈ lines, ∀ c ∈ part, P c) : ∀ c ∈ Text.joinWith t lines, P c := by
  induction lines using Text.joinWith.induct with
  | case1 => exact nofun
  | case2 part => exact each part List.mem_cons_self
  | case3 part rest _ ih =>
    obtain ⟨first, others⟩ := List.forall_mem_cons.mp each
    rw [Text.joinWith]
    · exact List.forall_mem_append.mpr ⟨List.forall_mem_append.mpr ⟨first, separator⟩, ih others⟩
    · assumption

theorem in_line_join (separator : InLine t) (each : ∀ part ∈ lines, InLine part) :
    InLine (Text.joinWith t lines) :=
  join_all separator each

theorem word_in_line (word : IsWord t) : InLine t := by
  intro c listed ends
  have outside : ∀ c ∈ lineEnds, ¬ IsWordPart c := by decide
  exact outside c ends (word c listed)

theorem join_line_feeds (some : lines ≠ []) :
    Text.joinWith "\n" lines ++ "\n" = lines.flatMap (· ++ Text.ofString "\n") := by
  induction lines using Text.joinWith.induct with
  | case1 => exact absurd rfl some
  | case2 line => simp [Text.joinWith]
  | case3 line rest nonempty ih =>
    rw [Text.joinWith, List.append_assoc, ih nonempty]
    · simp
    · assumption

/-- A text splits behind a part without the separator. -/
theorem split_part {separator : CodePoint} (plain : separator ∉ t) (rest : Text) :
    Text.splitAll separator (t ++ separator :: rest) = t :: Text.splitAll separator rest := by
  induction t with
  | nil => simp [Text.splitAll]
  | cons c t ih =>
    obtain ⟨other, others⟩ := not_or.mp (mt List.mem_cons.mpr plain)
    simp [Text.splitAll, Ne.symm other, ih others]

theorem split_whole {separator : CodePoint} (plain : separator ∉ t) :
    Text.splitAll separator t = [t] := by
  induction t with
  | nil => rfl
  | cons c t ih =>
    obtain ⟨other, others⟩ := not_or.mp (mt List.mem_cons.mpr plain)
    simp [Text.splitAll, Ne.symm other, ih others]

/-- Lines can be read back from their text. -/
theorem split_lines (each : ∀ line ∈ lines, InLine line) :
    Text.splitAll (.scalar '\n') (lines.flatMap (· ++ Text.ofString "\n")) = lines ++ [[]] := by
  induction lines with
  | nil => rfl
  | cons line rest ih =>
    obtain ⟨first, others⟩ := List.forall_mem_cons.mp each
    have shape : line ++ Text.ofString "\n" ++ rest.flatMap (· ++ Text.ofString "\n") =
        line ++ .scalar '\n' :: rest.flatMap (· ++ Text.ofString "\n") := by
      rw [List.append_assoc]
      rfl
    have feedless : .scalar '\n' ∉ line := fun listed => first _ listed (by decide)
    rw [List.flatMap_cons, shape, split_part feedless, ih others, List.cons_append]

theorem class_lines_nonempty (options : OutputOptions) (c : ClassTree) : c.lines options ≠ [] := by
  cases c
  simp [class_lines]

/-- The text of a class, line by line. -/
theorem render_lines (options : OutputOptions) (c : ClassTree) :
    c.render options = (c.lines options).flatMap (· ++ Text.ofString "\n") :=
  join_line_feeds (class_lines_nonempty options c)

end ClassMold.Parts
