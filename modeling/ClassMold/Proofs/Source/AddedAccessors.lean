import ClassMold.Proofs.Source.Parts

/-! Accessors are added to a class and change nothing else in it. Each takes five lines
of its own, and these stand between the constructors of its class and the classes
nested there. So the source without accessors is the source with them, less these
blocks; the blocks come in the order in which a walk visits the classes. -/
namespace ClassMold.AddedAccessors
open Parts

/-- The options with all accessors turned off. -/
def bare (options : OutputOptions) : OutputOptions :=
  { options with getters := false, setters := false }

/-- The blocks of lines that the accessors of a class take, field by field. -/
def addedBlocks (options : OutputOptions) (d : ClassTree) : List (List Text) :=
  (d.fields.flatMap (accessors options)).map (·.lines options (indentation (d.depth + 1)))

/-- The number of accessors that each field gets. -/
def kindsEnabled (options : OutputOptions) : Nat := options.getters.toNat + options.setters.toNat

/-- The second list is left of the first when some blocks are deleted from it. Each of them
stands there as consecutive lines, they come in the order given, and no other line goes. -/
inductive Without : List (List Text) → List Text → List Text → Prop
  | nothing : Without [] [] []
  | line {blocks whole left} (line : Text) (others : Without blocks whole left) :
      Without blocks (line :: whole) (line :: left)
  | block {blocks whole left} (block : List Text) (others : Without blocks whole left) :
      Without (block :: blocks) (block ++ whole) left

/-! ### Deleted blocks -/

variable {options : OutputOptions} {blocks further : List (List Text)}
  {whole left lines : List Text} {c d : ClassTree}

namespace Without

theorem unchanged (lines : List Text) : Without [] lines lines := by
  induction lines with
  | nil => exact nothing
  | cons first rest ih => exact line first ih

theorem all_of (blocks : List (List Text)) : Without blocks blocks.flatten [] := by
  induction blocks with
  | nil => exact nothing
  | cons first rest ih => exact block first ih

theorem append (first : Without blocks whole left) {whole' left' : List Text}
    (second : Without further whole' left') :
    Without (blocks ++ further) (whole ++ whole') (left ++ left') := by
  induction first with
  | nothing => exact second
  | line text _ ih => exact line text ih
  | block lines _ ih =>
    rw [List.append_assoc]
    exact block lines ih

end Without

/-! ### The parts of a class -/

/-- The lines of a class above its accessors: its first line, its fields and its constructors. -/
def upperLines (options : OutputOptions) (c : ClassTree) : List Text :=
  (indentation c.depth ++ classHeader c.name c.depth) :: (indentation c.depth ++ openBrace) ::
    (c.fields.flatMap (·.declarationLines (indentation (c.depth + 1)) options) ++
      constructorLines c.name c.fields (indentation (c.depth + 1)) options)

theorem upper_lines_bare (options : OutputOptions) (c : ClassTree) :
    upperLines (bare options) c = upperLines options c := rfl

theorem added_lines (options : OutputOptions) (c : ClassTree) :
    (addedBlocks options c).flatten =
      c.fields.flatMap (·.accessorLines (indentation (c.depth + 1)) options) := by
  simp [addedBlocks, accessor_lines, ← List.flatMap_def, List.flatMap_assoc]

theorem lines_in_parts (options : OutputOptions) (c : ClassTree) :
    c.lines options = upperLines options c ++ (addedBlocks options c).flatten ++
      ClassTree.nestedLines options c.nested ++ [indentation c.depth ++ closeBrace] := by
  rw [added_lines]
  cases c
  simp [ClassTree.lines, upperLines, ClassTree.name, ClassTree.depth, ClassTree.fields,
    ClassTree.nested]

theorem bare_adds_nothing (options : OutputOptions) (c : ClassTree) :
    addedBlocks (bare options) c = [] := by
  simp [addedBlocks, accessors, bare]

theorem bare_in_parts (options : OutputOptions) (c : ClassTree) :
    c.lines (bare options) = upperLines options c ++
      ClassTree.nestedLines (bare options) c.nested ++ [indentation c.depth ++ closeBrace] := by
  rw [lines_in_parts, bare_adds_nothing, upper_lines_bare, List.flatten_nil, List.append_nil]

theorem added_count (options : OutputOptions) (c : ClassTree) :
    (addedBlocks options c).length = c.fields.length * kindsEnabled options := by
  have each (f : Field) : (accessors options f).length = kindsEnabled options := by
    unfold accessors kindsEnabled
    cases options.getters <;> cases options.setters <;> rfl
  rw [addedBlocks, List.length_map, List.length_flatMap, List.map_congr_left fun f _ => each f,
    List.map_const', List.sum_replicate_nat]

theorem added_block_length (added : lines ∈ addedBlocks options c) : lines.length = 5 := by
  obtain ⟨method, listed, rfl⟩ := List.mem_map.mp added
  obtain ⟨f, -, own⟩ := List.mem_flatMap.mp listed
  simp only [accessors, List.mem_append, List.mem_ite_nil_right, List.mem_singleton] at own
  rcases own with ⟨-, rfl⟩ | ⟨-, rfl⟩ <;> rfl

/-! ### Whole trees -/

/-- A class loses its own blocks and those of the classes nested in it. -/
theorem class_without (nested : Without blocks (ClassTree.nestedLines options c.nested)
      (ClassTree.nestedLines (bare options) c.nested)) :
    Without (addedBlocks options c ++ blocks) (c.lines options) (c.lines (bare options)) := by
  have upper := (Without.unchanged (upperLines options c)).append (.all_of (addedBlocks options c))
  have lower := nested.append (.unchanged [indentation c.depth ++ closeBrace])
  have parts := upper.append lower
  rw [List.nil_append, List.append_nil, List.append_nil] at parts
  rw [lines_in_parts, bare_in_parts, List.append_assoc, List.append_assoc (upperLines options c)
    (ClassTree.nestedLines (bare options) c.nested)]
  exact parts

theorem nested_without (options : OutputOptions) (cs : List ClassTree) :
    Without ((ClassTree.walkAll cs).flatMap (addedBlocks options))
      (ClassTree.nestedLines options cs) (ClassTree.nestedLines (bare options) cs) := by
  refine (ClassTree.walk.mutual_induct
    (fun c => Without (c.walk.flatMap (addedBlocks options)) (c.lines options)
      (c.lines (bare options)))
    (fun cs => Without ((ClassTree.walkAll cs).flatMap (addedBlocks options))
      (ClassTree.nestedLines options cs) (ClassTree.nestedLines (bare options) cs)) ?_ ?_ ?_).2 cs
  · intro name depth fields nested ih
    rw [ClassTree.walk, List.flatMap_cons]
    exact class_without ih
  · exact .nothing
  · intro c rest ih ihRest
    rw [ClassTree.walkAll, List.flatMap_append]
    exact .line [] (ih.append ihRest)

/-- Accessors are purely additive. For every class, the source with them is the source without
them and, for each field of each class inside, one block of five lines for each kind of accessor
that is turned on. The blocks of the class itself stand together below its fields and constructors
and above its nested classes; everything there is as it is without accessors, but for the blocks
in nested classes. -/
theorem accessors_only_add (options : OutputOptions) (c : ClassTree) :
    Without (c.walk.flatMap (addedBlocks options)) (c.lines options) (c.lines (bare options)) ∧
      (∀ d ∈ c.walk, (addedBlocks options d).length = d.fields.length * kindsEnabled options ∧
        ∀ block ∈ addedBlocks options d, block.length = 5) ∧
      ∃ inside bareInside : List Text,
        c.lines options = upperLines options c ++ (addedBlocks options c).flatten ++ inside ∧
        c.lines (bare options) = upperLines options c ++ bareInside ∧
        Without ((ClassTree.walkAll c.nested).flatMap (addedBlocks options)) inside bareInside := by
  have nested := nested_without options c.nested
  refine ⟨?_, fun d _ => ⟨added_count options d, fun _ => added_block_length⟩,
    ClassTree.nestedLines options c.nested ++ [indentation c.depth ++ closeBrace],
    ClassTree.nestedLines (bare options) c.nested ++ [indentation c.depth ++ closeBrace],
    ?_, ?_, ?_⟩
  · have walked : c.walk = c :: ClassTree.walkAll c.nested := by cases c; rfl
    rw [walked, List.flatMap_cons]
    exact class_without nested
  · rw [lines_in_parts, List.append_assoc]
  · rw [bare_in_parts, List.append_assoc]
  · simpa using nested.append (.unchanged [indentation c.depth ++ closeBrace])

end ClassMold.AddedAccessors
