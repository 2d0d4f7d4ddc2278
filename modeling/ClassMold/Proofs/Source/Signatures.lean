import Mathlib.Data.List.TakeWhile
import ClassMold.Proofs.Source.Legibility

/-! What single lines of a class say: the words of a declaration, the parameters and the
name of a method, the field that is assigned. A line is taken apart at its blanks, commas
and brackets. None of them gets into a name or a type, so what is read is what was put
together; only the name of the outermost class can be anything, and nothing that is read
here depends on it. -/
namespace ClassMold.Signatures
open CodePoint Alphabet StringLiterals Parts Legibility

/-! ### Readers -/

/-- The words of a line, which blanks separate. -/
def spaced (line : Text) : List Text := line.splitAll (.scalar ' ')

/-- The parts of a list that commas separate, each without the blanks in front of it. -/
def listed (t : Text) : List Text :=
  if t = [] then [] else (t.splitAll (.scalar ',')).map (List.dropWhile (· = .scalar ' '))

/-- What stands between the last opening bracket of a header and its end. -/
def bracketed (header : Text) : Text := (header.reverse.takeWhile (· ≠ .scalar '(')).reverse.dropLast

/-- The parameters of a method, each by its words. -/
def parameters (header : Text) : List (List Text) := (listed (bracketed header)).map spaced

/-- The names of the parameters, which are their last words. -/
def parameterNames (header : Text) : List Text := (parameters header).filterMap List.getLast?

/-- The name of a field in its declaration: the last word, without the mark behind it. -/
def declaredName (line : Text) : Text := ((spaced line).getLastD []).dropLast

/-- The name of a method: the word before the last opening bracket. -/
def methodName (header : Text) : Text :=
  ((header.reverse.dropWhile (· ≠ .scalar '(')).tail.takeWhile (· ≠ .scalar ' ')).reverse

/-- The field that a line assigns, with or without `this` in front of it. -/
def assigned? (line : Text) : Option Text :=
  let target := if Text.startsWith line "this." then line.drop 5 else line
  let name := target.takeWhile (IsWordPart ·)
  if Text.startsWith (target.drop name.length) " = " ∧ line.getLast? = some (.scalar ';') then some name
  else none

variable {t name part inner front : Text} {parts : List Text} {f : Field} {fields : List Field}
  {options : OutputOptions} {boxed : Bool}

/-! ### Punctuation -/

/-- Blanks, commas and round brackets, which neither names nor types hold. -/
def separators : List CodePoint := [.scalar ' ', .scalar ',', .scalar '(', .scalar ')']

/-- A text without them. -/
def Unseparated (t : Text) : Prop := ∀ mark ∈ separators, mark ∉ t

instance : DecidablePred Unseparated := fun t =>
  inferInstanceAs (Decidable (∀ mark ∈ separators, mark ∉ t))

theorem word_unseparated (word : IsWord t) : Unseparated t := by
  have outside : ∀ mark ∈ separators, ¬ IsWordPart mark := by decide
  exact fun mark listed inside => outside mark listed (word mark inside)

theorem unseparated_append {u : Text} (first : Unseparated t) (second : Unseparated u) :
    Unseparated (t ++ u) :=
  fun mark listed inside => (List.mem_append.mp inside).elim (first mark listed) (second mark listed)

theorem brackets_unseparated (depth : Int) : Unseparated (brackets depth) := by
  unfold brackets
  induction depth.toNat with
  | zero => decide
  | succ n ih =>
    rw [List.replicate_succ, List.flatten_cons]
    exact unseparated_append (by decide) ih

theorem type_unseparated (legible : LegibleField f) : Unseparated (f.declaredType boxed) := by
  rw [declared_type_eq]
  exact unseparated_append (word_unseparated (element_type_word legible)) (brackets_unseparated _)

theorem default_unseparated (f : Field) (boxed : Bool) :
    Unseparated (f.defaultLiteral boxed) ∧ f.defaultLiteral boxed ≠ [] := by
  unfold Field.defaultLiteral
  split
  · decide
  · cases ScalarType.named? f.typeName with
    | none => decide
    | some type => cases type <;> decide

/-! ### Words -/

theorem spaced_part (plain : Unseparated t) (rest : Text) :
    spaced (t ++ .scalar ' ' :: rest) = t :: spaced rest :=
  split_part (plain _ (by decide)) rest

theorem spaced_whole (plain : Unseparated t) : spaced t = [t] := split_whole (plain _ (by decide))

theorem parameter_spaced (legible : LegibleField f) :
    spaced (f.parameter options) =
      [Text.ofString "final", f.declaredType options.boxedPrimitives, f.name] := by
  have shape : f.parameter options = Text.ofString "final" ++ .scalar ' ' ::
      (f.declaredType options.boxedPrimitives ++ .scalar ' ' :: f.name) := by
    simp [Field.parameter, Text.ofString]
  rw [shape, spaced_part (by decide), spaced_part (type_unseparated legible),
    spaced_whole (word_unseparated legible.name)]

/-- The words in front of a declared type. -/
def modifiers (options : OutputOptions) : List Text :=
  if options.finalFields then ["private", "final"] else ["private"]

theorem declaration_spaced (legible : LegibleField f) :
    spaced (declaration options f) =
      modifiers options ++ [f.declaredType options.boxedPrimitives, f.name ++ ";"] := by
  have name : Unseparated (f.name ++ [.scalar ';']) :=
    unseparated_append (word_unseparated legible.name) (by decide)
  have rest : spaced (f.declaredType options.boxedPrimitives ++ .scalar ' ' ::
      (f.name ++ [.scalar ';'])) = [f.declaredType options.boxedPrimitives, f.name ++ [.scalar ';']] := by
    rw [spaced_part (type_unseparated legible), spaced_whole name]
  unfold declaration modifiers
  cases options.finalFields with
  | false =>
    have shape : Text.ofString "private " = Text.ofString "private" ++ [.scalar ' '] := by decide
    rw [if_neg (by decide), shape, List.append_assoc, List.singleton_append, spaced_part (by decide),
      rest]
    rfl
  | true =>
    have shape : Text.ofString "private final " =
        Text.ofString "private" ++ .scalar ' ' :: (Text.ofString "final" ++ [.scalar ' ']) := by decide
    rw [if_pos rfl, shape, List.append_assoc, List.cons_append, spaced_part (by decide),
      List.append_assoc, List.singleton_append, spaced_part (by decide), rest]
    rfl

theorem declared_name (options : OutputOptions) (legible : LegibleField f) :
    declaredName (declaration options f) = f.name := by
  simp [declaredName, declaration_spaced legible, Text.ofString]

/-! ### Lists -/

/-- A part of a list: it has no comma and does not start with a blank. -/
def ListPart (part : Text) : Prop := .scalar ',' ∉ part ∧ ∃ first ∈ part.head?, first ≠ .scalar ' '

theorem part_trimmed (good : ListPart part) : part.dropWhile (· = .scalar ' ') = part := by
  obtain ⟨-, first, head, other⟩ := good
  obtain ⟨rest, rfl⟩ := List.head?_eq_some_iff.mp head
  simp [other]

theorem split_nonempty (separator : CodePoint) (t : Text) : Text.splitAll separator t ≠ [] := by
  cases t with
  | nil => simp [Text.splitAll]
  | cons c t =>
    rw [Text.splitAll]
    split
    · simp
    · split <;> simp

/-- A blank in front of a list makes no difference. -/
theorem blank_trimmed (t : Text) :
    (Text.splitAll (.scalar ',') (.scalar ' ' :: t)).map (List.dropWhile (· = .scalar ' ')) =
      (Text.splitAll (.scalar ',') t).map (List.dropWhile (· = .scalar ' ')) := by
  have other : CodePoint.scalar ' ' ≠ .scalar ',' := by decide
  rw [Text.splitAll, if_neg other]
  cases split : Text.splitAll (.scalar ',') t with
  | nil => exact absurd split (split_nonempty _ t)
  | cons part rest => simp

theorem split_join (some : parts ≠ []) (each : ∀ part ∈ parts, ListPart part) :
    ((Text.joinWith ", " parts).splitAll (.scalar ',')).map (List.dropWhile (· = .scalar ' ')) =
      parts := by
  induction parts using Text.joinWith.induct with
  | case1 => exact absurd rfl some
  | case2 part =>
    have good := each part List.mem_cons_self
    simp [Text.joinWith, split_whole good.1, part_trimmed good]
  | case3 part rest nonempty ih =>
    obtain ⟨good, others⟩ := List.forall_mem_cons.mp each
    have shape : Text.joinWith ", " (part :: rest) =
        part ++ .scalar ',' :: (.scalar ' ' :: Text.joinWith ", " rest) := by
      rw [Text.joinWith]
      · simp [Text.ofString]
      · assumption
    rw [shape, split_part good.1, List.map_cons, part_trimmed good, blank_trimmed,
      ih nonempty others]

/-- A list that was joined is read back. -/
theorem listed_join (each : ∀ part ∈ parts, ListPart part) : listed (Text.joinWith ", " parts) = parts := by
  cases parts with
  | nil => rfl
  | cons part rest =>
    have joined : Text.joinWith ", " (part :: rest) ≠ [] := by
      obtain ⟨-, first, head, -⟩ := each part List.mem_cons_self
      obtain ⟨tail, rfl⟩ := List.head?_eq_some_iff.mp head
      cases rest <;> simp [Text.joinWith]
    rw [listed, if_neg joined, split_join (by simp) each]

theorem parameter_part (legible : LegibleField f) : ListPart (f.parameter options) := by
  refine ⟨?_, .scalar 'f', rfl, by decide⟩
  have type : Unseparated (f.declaredType options.boxedPrimitives) := type_unseparated legible
  have name : Unseparated f.name := word_unseparated legible.name
  have comma : .scalar ',' ∈ separators := by decide
  simp [Field.parameter, Text.ofString, type _ comma, name _ comma]

/-! ### Headers -/

/-- A text up to a mark that it does not hold before. -/
theorem up_to_mark {mark : CodePoint} (plain : mark ∉ t) (rest : Text) :
    (t ++ mark :: rest).takeWhile (· ≠ mark) = t ∧
      (t ++ mark :: rest).dropWhile (· ≠ mark) = mark :: rest := by
  have passed : ∀ c ∈ t, decide (c ≠ mark) = true := by
    intro c listed
    have other : c ≠ mark := fun same => plain (same ▸ listed)
    simpa using other
  rw [List.takeWhile_append_of_pos passed, List.dropWhile_append_of_pos passed]
  simp

/-- A header from its end: the closing bracket, the parameters, the opening one. -/
theorem header_reversed (front inner : Text) :
    List.reverse (front ++ .scalar '(' :: (inner ++ [.scalar ')'])) =
      (.scalar ')' :: List.reverse inner) ++ .scalar '(' :: List.reverse front := by
  simp

theorem no_opening (plain : .scalar '(' ∉ inner) :
    .scalar '(' ∉ .scalar ')' :: List.reverse inner := by
  have other : CodePoint.scalar '(' ≠ .scalar ')' := by decide
  simp [plain, other]

/-- What is read between the brackets of a header does not depend on what stands before. -/
theorem bracketed_eq (front : Text) (plain : .scalar '(' ∉ inner) :
    bracketed (front ++ .scalar '(' :: (inner ++ [.scalar ')'])) = inner := by
  rw [bracketed, header_reversed, (up_to_mark (no_opening plain) _).1]
  simp

theorem method_name_eq (front : Text) (plain : .scalar '(' ∉ inner) (word : .scalar ' ' ∉ name) :
    methodName ((front ++ .scalar ' ' :: name) ++ .scalar '(' :: (inner ++ [.scalar ')'])) = name := by
  have before : List.reverse (front ++ .scalar ' ' :: name) =
      List.reverse name ++ .scalar ' ' :: List.reverse front := by
    simp
  have plainName : .scalar ' ' ∉ List.reverse name := fun listed => word (List.mem_reverse.mp listed)
  rw [methodName, header_reversed, (up_to_mark (no_opening plain) _).2, List.tail_cons, before,
    (up_to_mark plainName _).1, List.reverse_reverse]

theorem parameter_plain (legible : LegibleField f) : ∀ c ∈ f.parameter options, c ≠ .scalar '(' := by
  have type : Unseparated (f.declaredType options.boxedPrimitives) := type_unseparated legible
  have name : Unseparated f.name := word_unseparated legible.name
  have bracket : .scalar '(' ∈ separators := by decide
  have whole : .scalar '(' ∉ f.parameter options := by
    simp [Field.parameter, Text.ofString, type _ bracket, name _ bracket]
  exact fun c listed same => whole (same ▸ listed)

/-- A constructor with parameters takes a value for each field. -/
theorem full_parameters (options : OutputOptions) (name : Text) (each : ∀ f ∈ fields, LegibleField f) :
    parameters ((Method.fullConstructor name fields).header options) =
      fields.map fun f => [Text.ofString "final", f.declaredType options.boxedPrimitives, f.name] := by
  have plain : .scalar '(' ∉ Text.joinWith ", " (fields.map (·.parameter options)) := by
    refine fun listed => join_all (P := (· ≠ .scalar '(')) (by decide) ?_ _ listed rfl
    exact List.forall_mem_map.mpr fun f member => parameter_plain (each f member)
  have parts : ∀ part ∈ fields.map (·.parameter options), ListPart part :=
    List.forall_mem_map.mpr fun f member => parameter_part (each f member)
  have shape : (Method.fullConstructor name fields).header options =
      (Text.ofString "public " ++ name) ++ .scalar '(' ::
        (Text.joinWith ", " (fields.map (·.parameter options)) ++ [.scalar ')']) := by
    simp [Method.header, Text.ofString]
  rw [shape, parameters, bracketed_eq _ plain, listed_join parts, List.map_map]
  exact List.map_congr_left fun f member => parameter_spaced (each f member)

theorem empty_parameters (options : OutputOptions) (name : Text) (fields : List Field) :
    parameters ((Method.emptyConstructor name fields).header options) = [] := by
  have shape : (Method.emptyConstructor name fields).header options =
      (Text.ofString "public " ++ name) ++ .scalar '(' :: ([] ++ [.scalar ')']) := by
    simp [Method.header, Text.ofString]
  rw [shape, parameters, bracketed_eq _ (by simp)]
  rfl

/-- A getter is named for its field and takes nothing. -/
theorem getter_read (options : OutputOptions) (legible : LegibleField f) :
    methodName ((Method.getter f).header options) = "get" ++ f.accessorName ∧
      parameters ((Method.getter f).header options) = [] := by
  have accessor := word_unseparated (capitalized_word legible.name)
  have name : Unseparated (Text.ofString "get" ++ f.accessorName) :=
    unseparated_append (by decide) accessor
  have shape : (Method.getter f).header options =
      ((Text.ofString "public final " ++ f.declaredType options.boxedPrimitives) ++
        .scalar ' ' :: (Text.ofString "get" ++ f.accessorName)) ++ .scalar '(' :: ([] ++ [.scalar ')']) := by
    simp [Method.header, Text.ofString]
  rw [shape, method_name_eq _ (by simp) (name _ (by decide)), parameters, bracketed_eq _ (by simp)]
  exact ⟨rfl, rfl⟩

/-- A setter is named for its field and takes a value for it. -/
theorem setter_read (options : OutputOptions) (legible : LegibleField f) :
    methodName ((Method.setter f).header options) = "set" ++ f.accessorName ∧
      parameters ((Method.setter f).header options) =
        [[Text.ofString "final", f.declaredType options.boxedPrimitives, f.name]] := by
  have accessor := word_unseparated (capitalized_word legible.name)
  have name : Unseparated (Text.ofString "set" ++ f.accessorName) :=
    unseparated_append (by decide) accessor
  have plain : .scalar '(' ∉ f.parameter options :=
    fun listed => parameter_plain legible _ listed rfl
  have part : ∀ part ∈ [f.parameter options], ListPart part := by
    simpa using parameter_part legible
  have alone : listed (f.parameter options) = [f.parameter options] := listed_join part
  have shape : (Method.setter f).header options =
      (Text.ofString "public final void" ++ .scalar ' ' :: (Text.ofString "set" ++ f.accessorName)) ++
        .scalar '(' :: (f.parameter options ++ [.scalar ')']) := by
    simp [Method.header, Text.ofString]
  rw [shape, method_name_eq _ plain (name _ (by decide)), parameters, bracketed_eq _ plain, alone,
    List.map_singleton, parameter_spaced legible]
  exact ⟨rfl, rfl⟩

/-! ### Assignments -/

variable {mark : CodePoint} {rest : Text}

theorem word_taken (word : IsWord name) (ends : ¬ IsWordPart mark) :
    (name ++ mark :: rest).takeWhile (IsWordPart ·) = name := by
  rw [List.takeWhile_append_of_pos fun c listed => decide_eq_true (word c listed)]
  simp [ends]

/-- A line that starts with a word, and with no `this` and a dot, assigns that word or nothing. -/
theorem assigned_behind (word : IsWord name) (ends : ¬ IsWordPart mark)
    (plain : ¬ (name = Text.ofString "this" ∧ mark = .scalar '.')) :
    assigned? (name ++ mark :: rest) =
      if Text.startsWith (mark :: rest) " = " ∧ (mark :: rest).getLast? = some (.scalar ';') then some name
      else none := by
  have noThis : Text.startsWith (name ++ mark :: rest) "this." = false := by
    refine Bool.eq_false_iff.mpr fun starts => ?_
    obtain ⟨tail, whole⟩ := List.isPrefixOf_iff_prefix.mp starts
    have shape : Text.ofString "this." = Text.ofString "this" ++ [.scalar '.'] := by decide
    rw [shape, List.append_assoc, List.singleton_append] at whole
    obtain ⟨same, dot, -⟩ := word_ends (by decide) word (by decide) ends whole
    exact plain ⟨same.symm, dot.symm⟩
  simp [assigned?, noThis, word_taken word ends]

theorem assigned_behind_this (word : IsWord name) (ends : ¬ IsWordPart mark) :
    assigned? (Text.ofString "this." ++ (name ++ mark :: rest)) =
      if Text.startsWith (mark :: rest) " = " ∧ (mark :: rest).getLast? = some (.scalar ';') then some name
      else none := by
  have isThis : Text.startsWith (Text.ofString "this." ++ (name ++ mark :: rest)) "this." = true :=
    List.isPrefixOf_iff_prefix.mpr (List.prefix_append _ _)
  have dropped : (Text.ofString "this." ++ (name ++ mark :: rest)).drop 5 = name ++ mark :: rest := rfl
  simp [assigned?, isThis, dropped, word_taken word ends]

example : assigned? "this.a = a;" = some "a" := by decide +kernel

theorem last_behind (first last : CodePoint) (t : Text) :
    (first :: (t ++ [last])).getLast? = some last :=
  List.getLast?_concat (l := first :: t)

theorem assignment_assigns (legible : LegibleField f) : assigned? f.assignment = some f.name := by
  have shape : f.assignment = Text.ofString "this." ++ (f.name ++ .scalar ' ' ::
      (Text.ofString "= " ++ f.name ++ [.scalar ';'])) := by
    simp [Field.assignment, Text.ofString]
  rw [shape, assigned_behind_this legible.name (by decide), if_pos ⟨rfl, last_behind _ _ _⟩]

theorem default_assigns (legible : LegibleField f) :
    assigned? (f.defaultAssignment options) = some f.name := by
  have shape : f.defaultAssignment options = f.name ++ .scalar ' ' ::
      (Text.ofString "= " ++ f.defaultLiteral options.boxedPrimitives ++ [.scalar ';']) := by
    simp [Field.defaultAssignment, Text.ofString]
  rw [shape, assigned_behind legible.name (by decide) (by simp), if_pos ⟨rfl, last_behind _ _ _⟩]

/-- A line assigns nothing if no sign for it comes behind its first word. -/
theorem assigns_nothing (word : IsWord name) (ends : ¬ IsWordPart mark)
    (plain : ¬ (name = Text.ofString "this" ∧ mark = .scalar '.'))
    (other : Text.startsWith (mark :: rest) " = " = false) : assigned? (name ++ mark :: rest) = none := by
  rw [assigned_behind word ends plain, if_neg]
  simp [other]

theorem key_assigns_nothing (f : Field) : assigned? (keyLine f) = none := by
  have shape : keyLine f = [] ++ .scalar '@' ::
      (Text.ofString "SerializedName(" ++ f.key.literal ++ Text.ofString ")") := rfl
  rw [shape]
  exact assigns_nothing is_word_nil (by decide) (by decide) rfl

theorem final_assigns_nothing (final : options.finalFields = true) (f : Field) :
    assigned? (declaration options f) = none := by
  have shape : declaration options f = Text.ofString "private" ++ .scalar ' ' ::
      (Text.ofString "final " ++
        (f.declaredType options.boxedPrimitives ++ .scalar ' ' :: (f.name ++ [.scalar ';']))) := by
    simp [declaration, final, Text.ofString]
  rw [shape]
  exact assigns_nothing (by decide) (by decide) (by decide) rfl

theorem class_header_assigns_nothing (name : Text) (depth : Int) :
    assigned? (classHeader name depth) = none := by
  have shape : ∃ first rest, classHeader name depth =
      Text.ofString "public" ++ .scalar ' ' :: first :: rest ∧ first ≠ .scalar '=' := by
    by_cases nested : 0 < depth
    · exact ⟨.scalar 's', Text.ofString "tatic final class " ++ name,
        by simp [classHeader, nested, Text.ofString], by decide⟩
    · exact ⟨.scalar 'f', Text.ofString "inal class " ++ name,
        by simp [classHeader, nested, Text.ofString], by decide⟩
  obtain ⟨first, rest, same, other⟩ := shape
  rw [same]
  refine assigns_nothing (by decide) (by decide) (by decide) ?_
  simp [Text.startsWith, Text.ofString, List.isPrefixOf, Ne.symm other]

/-- A header ends with a bracket. -/
theorem header_assigns_nothing (options : OutputOptions) (m : Method) :
    assigned? (m.header options) = none := by
  have ends : ∃ first before, m.header options = first :: (before ++ [.scalar ')']) := by
    cases m with
    | fullConstructor name fields => exact ⟨_, _, rfl⟩
    | emptyConstructor name fields =>
      exact ⟨.scalar 'p', Text.ofString "ublic " ++ name ++ [.scalar '('],
        by simp [Method.header, Text.ofString]⟩
    | getter f =>
      exact ⟨.scalar 'p', Text.ofString "ublic final " ++ f.declaredType options.boxedPrimitives ++
        Text.ofString " get" ++ f.accessorName ++ [.scalar '('], by simp [Method.header, Text.ofString]⟩
    | setter f => exact ⟨_, _, rfl⟩
  obtain ⟨first, before, same⟩ := ends
  have other : CodePoint.scalar ')' ≠ .scalar ';' := by decide
  simp [assigned?, same, last_behind, other]

theorem delegation_assigns_nothing (arguments : Text) :
    assigned? (Text.ofString "this" ++ .scalar '(' :: arguments) = none :=
  assigns_nothing (by decide) (by decide) (by decide) rfl

theorem return_assigns_nothing (legible : LegibleField f) :
    assigned? (Text.ofString "return" ++ .scalar ' ' :: (f.name ++ [.scalar ';'])) = none := by
  refine assigns_nothing (by decide) (by decide) (by decide) ?_
  cases stands : f.name with
  | nil => rfl
  | cons first others =>
    have sign : ¬ IsWordPart (.scalar '=') := by decide
    have other : first ≠ .scalar '=' := fun same =>
      sign (same ▸ legible.name first (by simp [stands]))
    simp [Text.startsWith, Text.ofString, List.isPrefixOf, Ne.symm other]

end ClassMold.Signatures
