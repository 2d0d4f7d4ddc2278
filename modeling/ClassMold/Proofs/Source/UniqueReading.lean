import ClassMold.Proofs.Source.Layout

/-! The source of a tree has one reading. Each part of a class is told from what may
follow it by its first lines, and within a line the names and types end where the
punctuation begins. So the lines of two trees are the same only if the trees agree
in all that is written: what is lost is the flag of a field, and with boxed types
whether a type was the primitive or the class. -/
namespace ClassMold.UniqueReading
open CodePoint Alphabet StringLiterals Mirroring Parts Legibility Layout

/-! ### Trees that read the same -/

/-- Two fields that agree in all that is written of a field. -/
structure SameField (boxed : Bool) (f g : Field) : Prop where
  key : f.key = g.key
  name : f.name = g.name
  elementType : f.elementType boxed = g.elementType boxed
  arrayDepth : f.arrayDepth = g.arrayDepth

mutual

/-- Two trees of one shape that agree, class by class, in name and depth, and field by
field in what is written. -/
inductive SameClass (boxed : Bool) : ClassTree → ClassTree → Prop where
  | node (name : Text) (depth : Int) {fields others : List Field} {nested inner : List ClassTree}
      (pairwise : List.Forall₂ (SameField boxed) fields others)
      (below : SameClasses boxed nested inner) :
      SameClass boxed (.node name depth fields nested) (.node name depth others inner)

/-- The same classes in the same order. -/
inductive SameClasses (boxed : Bool) : List ClassTree → List ClassTree → Prop where
  | nil : SameClasses boxed [] []
  | cons {c d : ClassTree} {cs ds : List ClassTree} (first : SameClass boxed c d)
      (rest : SameClasses boxed cs ds) : SameClasses boxed (c :: cs) (d :: ds)

end

variable {boxed : Bool} {f g : Field} {fields others : List Field} {options : OutputOptions}
  {c d : ClassTree} {tabs : Text}

/-! ### What is written -/

theorem same_declared_type (same : SameField boxed f g) :
    f.declaredType boxed = g.declaredType boxed := by
  rw [declared_type_eq, declared_type_eq, same.elementType, same.arrayDepth]

theorem same_default (same : SameField boxed f g) :
    f.defaultLiteral boxed = g.defaultLiteral boxed := by
  cases boxed with
  | true => rfl
  | false =>
    have type : f.typeName = g.typeName := same.elementType
    simp [Field.defaultLiteral, Field.isArray, type, same.arrayDepth]

theorem same_declaration (same : SameField options.boxedPrimitives f g) :
    f.declarationLines tabs options = g.declarationLines tabs options := by
  simp only [Field.declarationLines, same_declared_type same, same.key, same.name]

theorem same_parameter (same : SameField options.boxedPrimitives f g) :
    f.parameter options = g.parameter options := by
  simp only [Field.parameter, same_declared_type same, same.name]

theorem same_assignment (same : SameField boxed f g) : f.assignment = g.assignment := by
  simp only [Field.assignment, same.name]

theorem same_default_assignment (same : SameField options.boxedPrimitives f g) :
    f.defaultAssignment options = g.defaultAssignment options := by
  simp only [Field.defaultAssignment, same.name, same_default same]

theorem same_accessors (same : SameField options.boxedPrimitives f g) :
    f.accessorLines tabs options = g.accessorLines tabs options := by
  simp only [Field.accessorLines, Field.accessorName, same_declared_type same, same.name,
    same_parameter same, same_assignment same]

theorem same_map {α : Type} {part : Field → α} (same : List.Forall₂ (SameField boxed) fields others)
    (each : ∀ {f g}, SameField boxed f g → part f = part g) : fields.map part = others.map part := by
  induction same with
  | nil => rfl
  | cons first _ ih => rw [List.map_cons, List.map_cons, each first, ih]

theorem same_constructors (name : Text)
    (same : List.Forall₂ (SameField options.boxedPrimitives) fields others) :
    constructorLines name fields tabs options = constructorLines name others tabs options := by
  simp only [constructorLines, fullConstructorLines, emptyConstructorLines,
    same_map same same_parameter, same_map same same_assignment, same_map same same_default,
    same_map same same_default_assignment]

theorem same_methods (name : Text)
    (same : List.Forall₂ (SameField options.boxedPrimitives) fields others) :
    (methods options name fields).flatMap (·.lines options tabs) =
      (methods options name others).flatMap (·.lines options tabs) := by
  rw [method_lines, method_lines, same_constructors name same, List.flatMap_def,
    same_map same same_accessors, ← List.flatMap_def]

/-- Trees that agree in what is written have the same lines. -/
theorem same_lines (same : SameClass options.boxedPrimitives c d) : c.lines options = d.lines options := by
  refine @SameClass.rec options.boxedPrimitives
    (fun c d _ => c.lines options = d.lines options)
    (fun cs ds _ => ClassTree.nestedLines options cs = ClassTree.nestedLines options ds)
    ?_ ?_ ?_ c d same
  · intro name depth fields others nested inner pairwise below ih
    rw [class_lines, class_lines, ih, same_methods name pairwise, List.flatMap_def,
      same_map pairwise same_declaration, ← List.flatMap_def]
  · rfl
  · intro c d cs ds first rest ih ihRest
    rw [ClassTree.nestedLines, ClassTree.nestedLines, ih, ihRest]

/-! ### What is read -/

variable {r s : Text}

/-- Tabs end where something else begins, so the depth of a line can be read. -/
theorem tabs_end {depth deep : Int} {t u : Text} {x y : CodePoint} (headT : t.head? = some x)
    (headU : u.head? = some y) (plainT : x ≠ .scalar '\t') (plainU : y ≠ .scalar '\t')
    (same : indentation depth ++ t = indentation deep ++ u) : depth.toNat = deep.toNat ∧ t = u := by
  obtain ⟨tabsT, afterT⟩ := split_tabs depth headT plainT
  obtain ⟨tabsU, afterU⟩ := split_tabs deep headU plainU
  exact ⟨tabsT.symm.trans (same ▸ tabsU), afterT.symm.trans (same ▸ afterU)⟩

theorem brackets_end {m n : Nat}
    (same : (List.replicate m (Text.ofString "[]")).flatten ++ .scalar ' ' :: r =
      (List.replicate n (Text.ofString "[]")).flatten ++ .scalar ' ' :: s) : m = n ∧ r = s := by
  induction m generalizing n with
  | zero =>
    cases n with
    | zero => simpa using same
    | succ n => simp [List.replicate_succ, Text.ofString] at same
  | succ m ih =>
    cases n with
    | zero => simp [List.replicate_succ, Text.ofString] at same
    | succ n =>
      rw [List.replicate_succ, List.replicate_succ, List.flatten_cons, List.flatten_cons,
        List.append_assoc, List.append_assoc] at same
      obtain ⟨rfl, rest⟩ := ih (List.append_cancel_left same)
      exact ⟨rfl, rest⟩

theorem key_read (same : keyLine f = keyLine g) : f.key = g.key := by
  refine literal_injective ?_
  simpa [keyLine] using same

theorem declaration_read (legibleF : LegibleField f) (legibleG : LegibleField g)
    (same : declaration options f = declaration options g) :
    f.elementType options.boxedPrimitives = g.elementType options.boxedPrimitives ∧
      f.arrayDepth = g.arrayDepth ∧ f.name = g.name := by
  rw [declaration, declaration, List.append_cancel_left_eq, declared_type_eq, declared_type_eq,
    List.append_assoc, List.append_assoc] at same
  obtain ⟨x, restF, shapeF, endsF⟩ := brackets_start f.arrayDepth (f.name ++ [.scalar ';'])
  obtain ⟨y, restG, shapeG, endsG⟩ := brackets_start g.arrayDepth (g.name ++ [.scalar ';'])
  rw [shapeF, shapeG] at same
  obtain ⟨types, marks, rests⟩ :=
    word_ends (element_type_word legibleF) (element_type_word legibleG) endsF endsG same
  have behind : brackets f.arrayDepth ++ .scalar ' ' :: (f.name ++ [.scalar ';']) =
      brackets g.arrayDepth ++ .scalar ' ' :: (g.name ++ [.scalar ';']) := by
    rw [shapeF, shapeG, marks, rests]
  obtain ⟨depths, names⟩ := brackets_end behind
  have nonnegF := legibleF.depth
  have nonnegG := legibleG.depth
  exact ⟨types, by omega, List.append_cancel_right names⟩

/-- Lines that do not start with a field: under a blank line there is no annotation. -/
def EndsFields (lines : List Text) : Prop :=
  ∀ depth key more, lines ≠ [] :: (indentation depth ++ .scalar '@' :: key) :: more

theorem ends_under_blank (depth : Int) {text : Text} (head : text.head? = some (.scalar 'p'))
    (more : List Text) : EndsFields ([] :: (indentation depth ++ text) :: more) := by
  intro deep key others same
  obtain ⟨line, -⟩ := List.cons.inj (List.cons.inj same).2
  obtain ⟨-, rfl⟩ := tabs_end head rfl (by decide) (by decide) line
  exact absurd head (by simp)

theorem header_head (options : OutputOptions) (m : Method) :
    (m.header options).head? = some (.scalar 'p') := by
  cases m <;> rfl

/-- Behind the fields of a class come a method, a nested class or the closing brace. -/
theorem members_end (options : OutputOptions) (depth : Int) (name : Text) (fields : List Field)
    (nested : List ClassTree) {line : Text} (close : line ≠ []) (more : List Text) :
    EndsFields ((methods options name fields).flatMap (·.lines options (indentation depth)) ++
      (ClassTree.nestedLines options nested ++ line :: more)) := by
  cases methods options name fields with
  | cons m rest => exact ends_under_blank depth (header_head options m) _
  | nil =>
    cases nested with
    | nil => exact fun _ _ _ same => close (List.cons.inj same).1
    | cons c rest =>
      obtain ⟨inner, deep, _, _⟩ := c
      simp only [ClassTree.nestedLines, class_lines]
      exact ends_under_blank deep (class_header_head inner deep) _

theorem fields_read {depth : Int} {tail rest : List Text} (legible : ∀ f ∈ fields, LegibleField f)
    (legibleOthers : ∀ f ∈ others, LegibleField f) (ends : EndsFields tail)
    (endsOthers : EndsFields rest)
    (same : fields.flatMap (·.declarationLines (indentation depth) options) ++ tail =
      others.flatMap (·.declarationLines (indentation depth) options) ++ rest) :
    List.Forall₂ (SameField options.boxedPrimitives) fields others ∧ tail = rest := by
  induction fields generalizing others with
  | nil =>
    cases others with
    | nil => exact ⟨.nil, same⟩
    | cons g others =>
      rw [List.flatMap_cons, declaration_lines] at same
      exact absurd same (ends depth _ _)
  | cons f fields ih =>
    cases others with
    | nil =>
      rw [List.flatMap_cons, declaration_lines] at same
      exact absurd same.symm (endsOthers depth _ _)
    | cons g others =>
      rw [List.forall_mem_cons] at legible legibleOthers
      rw [List.flatMap_cons, List.flatMap_cons, declaration_lines, declaration_lines] at same
      obtain ⟨keys, declarations⟩ := List.cons.inj (List.cons.inj same).2
      obtain ⟨declarations, behind⟩ := List.cons.inj declarations
      obtain ⟨types, depths, names⟩ := declaration_read legible.1 legibleOthers.1
        (List.append_cancel_left declarations)
      have field : SameField options.boxedPrimitives f g :=
        ⟨key_read (List.append_cancel_left keys), names, types, depths⟩
      obtain ⟨pairwise, tails⟩ := ih legible.2 legibleOthers.2 behind
      exact ⟨.cons field pairwise, tails⟩

theorem class_header_read {name other : Text} {depth deep : Int} (placed : 0 ≤ depth) (low : 0 ≤ deep)
    (same : indentation depth ++ classHeader name depth = indentation deep ++ classHeader other deep) :
    depth = deep ∧ name = other := by
  obtain ⟨levels, headers⟩ := tabs_end (class_header_head name depth) (class_header_head other deep)
    (by decide) (by decide) same
  obtain rfl : depth = deep := by omega
  exact ⟨rfl, List.append_cancel_left headers⟩

theorem brace_nonempty (depth : Int) : indentation depth ++ closeBrace ≠ [] := by
  simp [closeBrace, Text.ofString]

/-- The lines of a legible tree have one reading, whatever comes behind them. Nested
classes end where a line that is not blank takes the place of the next one. -/
theorem lines_read : ∀ {d : ClassTree} {r s : List Text}, (∀ x ∈ c.walk, Legible x) →
    (∀ x ∈ d.walk, Legible x) → c.lines options ++ r = d.lines options ++ s →
    SameClass options.boxedPrimitives c d ∧ r = s := by
  refine (ClassTree.walk.mutual_induct
    (fun c => ∀ {d : ClassTree} {r s : List Text}, (∀ x ∈ c.walk, Legible x) →
      (∀ x ∈ d.walk, Legible x) → c.lines options ++ r = d.lines options ++ s →
      SameClass options.boxedPrimitives c d ∧ r = s)
    (fun cs => ∀ {ds : List ClassTree} {line other : Text} {r s : List Text}, line ≠ [] → other ≠ [] →
      (∀ x ∈ ClassTree.walkAll cs, Legible x) → (∀ x ∈ ClassTree.walkAll ds, Legible x) →
      ClassTree.nestedLines options cs ++ line :: r = ClassTree.nestedLines options ds ++ other :: s →
      SameClasses options.boxedPrimitives cs ds ∧ r = s) ?_ ?_ ?_).1 c
  · intro name depth fields nested ih d r s legible legibleOther same
    obtain ⟨root, deep, others, inner⟩ := d
    rw [ClassTree.walk, List.forall_mem_cons] at legible legibleOther
    have placed : 0 ≤ depth := legible.1.depth
    have placedOther : 0 ≤ deep := legibleOther.1.depth
    have own : ∀ f ∈ fields, LegibleField f := legible.1.fields
    have ownOther : ∀ f ∈ others, LegibleField f := legibleOther.1.fields
    simp only [class_lines, List.cons_append, List.append_assoc] at same
    obtain ⟨headers, behind⟩ := List.cons.inj same
    obtain ⟨rfl, rfl⟩ := class_header_read placed placedOther headers
    obtain ⟨-, members⟩ := List.cons.inj behind
    have brace := brace_nonempty depth
    obtain ⟨pairwise, tails⟩ := fields_read own ownOther
      (members_end options (depth + 1) name fields nested brace r)
      (members_end options (depth + 1) name others inner brace s) members
    rw [same_methods name pairwise] at tails
    obtain ⟨below, rests⟩ := ih brace brace legible.2 legibleOther.2 (List.append_cancel_left tails)
    exact ⟨.node name depth pairwise below, rests⟩
  · intro ds line other r s some _ _ _ same
    cases ds with
    | nil => exact ⟨.nil, (List.cons.inj same).2⟩
    | cons d ds => exact absurd (List.cons.inj same).1 some
  · intro c cs ih ihRest ds line other r s some someOther legible legibleOther same
    cases ds with
    | nil => exact absurd (List.cons.inj same).1.symm someOther
    | cons d ds =>
      rw [ClassTree.walkAll, List.forall_mem_append] at legible legibleOther
      simp only [ClassTree.nestedLines, List.cons_append, List.append_assoc] at same
      obtain ⟨first, behind⟩ := ih legible.1 legibleOther.1 (List.cons.inj same).2
      obtain ⟨rest, rests⟩ := ihRest some someOther legible.2 legibleOther.2 behind
      exact ⟨.cons first rest, rests⟩

/-! ### Sources -/

/-- Rendering loses nothing but what it does not write. Two samples give one text
exactly if their trees have one shape and agree, class by class and field by field,
in names, depths, keys, array depths and the types that are shown. -/
theorem same_source_iff (options : OutputOptions) (name other : Text) (sample another : Sample)
    (c d : ClassTree) (legal : name.isIdentifier = true) (legalOther : other.isIdentifier = true)
    (ran : (inferClass name 0 sample).outcome = .ok c)
    (ranOther : (inferClass other 0 another).outcome = .ok d) :
    c.render options = d.render options ↔ SameClass options.boxedPrimitives c d := by
  constructor
  · intro same
    have texts := congrArg (Text.splitAll (.scalar '\n')) same
    rw [render_lines, render_lines, split_lines (laid_in_line (inferred_laid options legal ran)),
      split_lines (laid_in_line (inferred_laid options legalOther ranOther))] at texts
    exact (lines_read (inferred_legible (identifier_word legal) (Int.le_refl 0) ran)
      (inferred_legible (identifier_word legalOther) (Int.le_refl 0) ranOther) texts).1
  · intro same
    rw [render_lines, render_lines, same_lines same]

/-- A primitive value beside an object under a key that spells its class. -/
def wrapped (first second : Sample) : Sample :=
  .object [("integer", first), ("Integer", second)]

theorem wrapped_sources :
    ∃ c d, (inferClass "Root" 0 (wrapped (.int 1) (.object []))).outcome = .ok c ∧
      (inferClass "Root" 0 (wrapped (.object []) (.int 1))).outcome = .ok d ∧
      c.render { boxedPrimitives := true } = d.render { boxedPrimitives := true } ∧
      c.render {} ≠ d.render {} := by
  obtain ⟨c, d, ran, ranOther, boxed, type, otherType⟩ :
      ∃ c d, (inferClass "Root" 0 (wrapped (.int 1) (.object []))).outcome = .ok c ∧
        (inferClass "Root" 0 (wrapped (.object []) (.int 1))).outcome = .ok d ∧
        SameClass true c d ∧ c.fields.head?.map Field.typeName = some "int" ∧
        d.fields.head?.map Field.typeName = some "Integer" :=
    ⟨_, _, rfl, rfl, .node _ _ (.cons ⟨rfl, rfl, rfl, rfl⟩ (.cons ⟨rfl, rfl, rfl, rfl⟩ .nil))
      (.cons (.node _ _ .nil .nil) .nil), rfl, rfl⟩
  refine ⟨c, d, ran, ranOther, ?_, ?_⟩
  · exact (same_source_iff _ "Root" "Root" _ _ c d (by decide) (by decide) ran ranOther).mpr boxed
  · intro same
    cases (same_source_iff {} "Root" "Root" _ _ c d (by decide) (by decide) ran ranOther).mp same with
    | node name depth pairwise below =>
      cases pairwise with
      | nil => cases type
      | cons first rest =>
        have types := type.symm.trans ((congrArg some first.elementType).trans otherType)
        exact absurd types (by decide)

end ClassMold.UniqueReading
