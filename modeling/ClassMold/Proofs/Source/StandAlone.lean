import ClassMold.Proofs.Source.Layout

/-! A nested class is the class that its object would give alone. The depth at which
an inference starts is added to the depth of every class and decides nothing else,
and in the lines of a class it shows in the tabs and in one word of the first line.
So the block of a nested class is the source of its object, moved to the right. -/
namespace ClassMold.StandAlone
open Sample Steps Mirroring Parts Legibility Layout

/-! ### Runs at different depths -/

mutual

/-- The tree with a number added to the depth of every class. -/
def deepened (offset : Int) : ClassTree → ClassTree
  | .node name depth fields nested => .node name (depth + offset) fields (allDeepened offset nested)

/-- Several trees, each with the number added. -/
def allDeepened (offset : Int) : List ClassTree → List ClassTree
  | [] => []
  | c :: rest => deepened offset c :: allDeepened offset rest

end

/-- An inference that starts deeper gives the same tree, deeper, or the same error. -/
theorem infer_deepened (offset : Int) (value : Sample) : ∀ (name : Text) (depth : Int),
    (inferClass name (depth + offset) value).outcome =
      (inferClass name depth value).outcome.map (deepened offset) := by
  refine (visited.mutual_induct
    (fun value => ∀ (name : Text) (depth : Int), (inferClass name (depth + offset) value).outcome =
      (inferClass name depth value).outcome.map (deepened offset))
    (fun members => ∀ depth : Int, (inferMembers (depth + offset) members).outcome =
      (inferMembers depth members).outcome.map fun built => (built.1, allDeepened offset built.2))
    ?_ ?_ ?_ ?_ ?_).1 value
  · intro first later ih name depth
    simpa only [inferClass] using ih name depth
  · intro members ih name depth
    rw [inferClass, inferClass, Reported.bind_outcome, Reported.bind_outcome, ih]
    cases (inferMembers depth members).outcome <;> rfl
  · intro value notCons notObject name depth
    cases value with
    | list items =>
      cases items with
      | nil => rfl
      | cons first later => exact absurd rfl (notCons first later)
    | object members => exact absurd rfl (notObject members)
    | _ => rfl
  · intro depth
    rfl
  · intro key value rest ih ihRest depth
    have shifted : depth + offset + 1 = depth + 1 + offset := by omega
    rw [inferMembers, inferMembers, Reported.bind_outcome, Reported.bind_outcome]
    cases Field.ofMember key value with
    | error error => rfl
    | ok field =>
      simp only [Reported.quietly_outcome, Except.bind]
      split
      · simp only [Reported.bind_outcome, shifted, ih, ihRest]
        cases (inferClass _ (depth + 1) value).outcome with
        | error error => rfl
        | ok c => cases (inferMembers depth rest).outcome <;> rfl
      · simp only [Reported.bind_outcome, ihRest]
        cases (inferMembers depth rest).outcome <;> rfl

/-! ### Lines at different depths -/

/-- A line moved to the right; a blank line stays blank. -/
def indented (offset : Int) (line : Text) : Text :=
  if line = [] then [] else indentation offset ++ line

/-- The first line of a class that stands alone, with a modifier behind its first word. -/
def madeStatic (line : Text) : Text :=
  let access : Text := "public"
  line.take access.length ++ " static" ++ line.drop access.length

/-- The lines of a class that stands alone, as those of a nested class. -/
def nestedForm (offset : Int) : List Text → List Text
  | [] => []
  | first :: rest => indented offset (madeStatic first) :: rest.map (indented offset)

variable {offset depth : Int} {line name : Text} {c d : ClassTree} {options : OutputOptions}

theorem indentation_add (placed : 0 ≤ depth) (right : 0 ≤ offset) :
    indentation (depth + offset) = indentation offset ++ indentation depth := by
  rw [indentation, indentation, indentation, ← List.replicate_add]
  congr 1
  omega

@[simp] theorem indented_blank (offset : Int) : indented offset [] = [] := rfl

/-- To write a line deeper is to move it to the right. -/
theorem indented_line (placed : 0 ≤ depth) (right : 0 ≤ offset) (some : line ≠ []) :
    indented offset (indentation depth ++ line) = indentation (depth + offset) ++ line := by
  rw [indented, if_neg (by simp [some]), indentation_add placed right, List.append_assoc]

theorem open_brace_nonempty : openBrace ≠ [] := by decide

theorem close_brace_nonempty : closeBrace ≠ [] := by decide

theorem declaration_moved (placed : 0 ≤ depth) (right : 0 ≤ offset) (f : Field) :
    (f.declarationLines (indentation depth) options).map (indented offset) =
      f.declarationLines (indentation (depth + offset)) options := by
  have key : keyLine f ≠ [] := by simp [keyLine, Text.ofString]
  have some : declaration options f ≠ [] := by
    unfold declaration
    cases options.finalFields <;> simp [Text.ofString]
  simp only [declaration_lines, List.map_cons, List.map_nil, indented_blank,
    indented_line placed right key, indented_line placed right some]

theorem method_moved (placed : 0 ≤ depth) (right : 0 ≤ offset) (m : Method) :
    (m.lines options (indentation depth)).map (indented offset) =
      m.lines options (indentation (depth + offset)) := by
  have some : m.header options ≠ [] := by cases m <;> simp [Method.header, Text.ofString]
  have body : ((m.body options).map fun line => indentation depth ++ "\t" ++ line).map
      (indented offset) = (m.body options).map fun line =>
        indentation (depth + offset) ++ "\t" ++ line := by
    rw [List.map_map]
    refine List.map_congr_left fun line _ => ?_
    rw [Function.comp_apply, List.append_assoc, List.append_assoc,
      indented_line placed right (by simp [Text.ofString])]
  simp only [Method.lines, bracedLines, List.map_append, List.map_cons, List.map_nil, body,
    indented_blank, indented_line placed right some, indented_line placed right open_brace_nonempty,
    indented_line placed right close_brace_nonempty]

/-- The first line of a class. -/
def firstLine (c : ClassTree) (offset : Int) : Text :=
  indentation (c.depth + offset) ++ classHeader c.name (c.depth + offset)

theorem lines_start (options : OutputOptions) (c : ClassTree) :
    c.lines options = firstLine c 0 :: (c.lines options).tail := by
  cases c
  simp [class_lines, firstLine, ClassTree.depth, ClassTree.name]

theorem first_line_moved (placed : 0 < c.depth) (right : 0 ≤ offset) :
    indented offset (firstLine c 0) = firstLine c offset := by
  have some : classHeader c.name c.depth ≠ [] := by simp [classHeader, Text.ofString]
  have same : classHeader c.name (c.depth + offset) = classHeader c.name c.depth := by
    simp [classHeader, placed, show 0 < c.depth + offset by omega]
  rw [firstLine, firstLine, Int.add_zero, indented_line (Int.le_of_lt placed) right some, same]

/-- Behind its first line a class is moved as a whole. The classes nested in it are
static at every depth, so the first lines of these are moved like the others. -/
theorem lines_deepened (right : 0 ≤ offset) : 0 ≤ c.depth → (∀ d ∈ c.walk, Stepwise d) →
    (deepened offset c).lines options =
      firstLine c offset :: (c.lines options).tail.map (indented offset) := by
  refine (ClassTree.walk.mutual_induct
    (fun c => 0 ≤ c.depth → (∀ d ∈ c.walk, Stepwise d) → (deepened offset c).lines options =
      firstLine c offset :: (c.lines options).tail.map (indented offset))
    (fun cs => (∀ c ∈ cs, 0 < c.depth) → (∀ d ∈ ClassTree.walkAll cs, Stepwise d) →
      ClassTree.nestedLines options (allDeepened offset cs) =
        (ClassTree.nestedLines options cs).map (indented offset)) ?_ ?_ ?_).1 c
  · intro name depth fields nested ih placed stepwise
    have placed : 0 ≤ depth := placed
    rw [ClassTree.walk, List.forall_mem_cons] at stepwise
    have below : ∀ inner ∈ nested, 0 < inner.depth := by
      intro inner listed
      have step : inner.depth = depth + 1 := stepwise.1 inner listed
      omega
    have inside : (0 : Int) ≤ depth + 1 := by omega
    have shifted : depth + offset + 1 = depth + 1 + offset := by omega
    simp only [deepened, class_lines, firstLine, ClassTree.depth, ClassTree.name, List.tail_cons,
      List.map_cons, List.map_append, List.map_flatMap, List.map_nil,
      declaration_moved inside right, method_moved inside right, ih below stepwise.2,
      indented_line placed right open_brace_nonempty, indented_line placed right close_brace_nonempty,
      shifted]
  · intro _ _
    rfl
  · intro c rest ih ihRest placed stepwise
    rw [List.forall_mem_cons] at placed
    rw [ClassTree.walkAll, List.forall_mem_append] at stepwise
    have first := ih (Int.le_of_lt placed.1) stepwise.1
    rw [allDeepened, ClassTree.nestedLines, ClassTree.nestedLines, first,
      ihRest placed.2 stepwise.2, List.map_append, List.map_cons, lines_start options c,
      List.map_cons, first_line_moved placed.1 right]
    rfl

/-- The lines of a class that stands alone and those of the same class in another one. -/
theorem lines_nested (right : 0 < offset) (top : c.depth = 0) (stepwise : ∀ d ∈ c.walk, Stepwise d) :
    (deepened offset c).lines options = nestedForm offset (c.lines options) := by
  have head : indented offset (madeStatic (firstLine c 0)) = firstLine c offset := by
    have static : madeStatic (firstLine c 0) = classHeader c.name offset := by
      simp [madeStatic, firstLine, top, classHeader, indentation, right, Text.ofString]
    have some : classHeader c.name offset ≠ [] := by simp [classHeader, Text.ofString]
    rw [static, indented, if_neg some, firstLine, top, Int.zero_add]
  rw [lines_deepened (Int.le_of_lt right) (by omega) stepwise, lines_start options c, nestedForm, head]
  rfl

/-! ### Blocks of nested classes -/

theorem walked_lines_inside (options : OutputOptions) : d ∈ c.walk →
    d.lines options <:+: c.lines options := by
  refine (ClassTree.walk.mutual_induct
    (fun c => d ∈ c.walk → d.lines options <:+: c.lines options)
    (fun cs => d ∈ ClassTree.walkAll cs → d.lines options <:+: ClassTree.nestedLines options cs)
    ?_ ?_ ?_).1 c
  · intro name depth fields nested ih walked
    rw [ClassTree.walk] at walked
    rcases List.mem_cons.mp walked with rfl | below
    · exact List.infix_refl _
    · refine (ih below).trans ?_
      rw [ClassTree.lines]
      exact List.infix_append _ _ _
  · intro walked
    cases walked
  · intro c rest ih ihRest walked
    rw [ClassTree.nestedLines]
    rw [ClassTree.walkAll] at walked
    rcases List.mem_append.mp walked with first | later
    · exact (ih first).trans (List.infix_append' [[]] _ _)
    · exact (ihRest later).trans (List.suffix_append _ _).isInfix

/-- The block of a class in the source of another: what its object gives alone, moved
to where the block stands. -/
structure IsBlock (options : OutputOptions) (whole d : ClassTree) (members : List (Text × Sample)) :
    Prop where
  inside : d.lines options <:+: whole.lines options
  alone : ∃ c, (inferClass d.name 0 (.object members)).outcome = .ok c ∧ d = deepened d.depth c ∧
    (0 < d.depth → d.lines options = nestedForm d.depth (c.lines options))

variable {sample : Sample}

theorem block_of_run {members : List (Text × Sample)} (walked : d ∈ c.walk)
    (ran : (inferClass d.name d.depth (.object members)).outcome = .ok d) :
    IsBlock options c d members := by
  have deeper := infer_deepened d.depth (.object members) d.name 0
  rw [Int.zero_add, ran] at deeper
  cases alone : (inferClass d.name 0 (.object members)).outcome with
  | error error =>
    rw [alone] at deeper
    cases deeper
  | ok root =>
    rw [alone] at deeper
    have same : d = deepened d.depth root := Except.ok.inj deeper
    refine ⟨walked_lines_inside options walked, root, alone, same, fun right => ?_⟩
    rw [← lines_nested right (class_name_depth alone).2 (inferred_stepwise alone), ← same]

theorem nested_deeper (stepwise : ∀ d ∈ c.walk, Stepwise d) :
    ∀ d ∈ ClassTree.walkAll c.nested, c.depth < d.depth := by
  have deep : ∀ d ∈ c.walk, c.depth ≤ d.depth := by
    refine walk_inherits (Int.le_refl _) fun d walked deep inner nested => ?_
    have step := stepwise d walked inner nested
    omega
  intro inner below
  obtain ⟨outer, walked, nested⟩ := (mem_below_iff inner c).mp below
  have step := stepwise outer walked inner nested
  have least := deep outer walked
  omega

/-- A nested class is generated as if it stood alone. An inference that starts deeper
adds its depth to every class; the lines of a class that stands alone become those of
a nested one by tabs in front and one word in the first; and every class of a tree is
a block of its source that its object gives alone, moved to its place. -/
theorem nested_as_alone (options : OutputOptions) (name : Text) (depth : Int) (sample : Sample) :
    (inferClass name depth sample).outcome =
        (inferClass name 0 sample).outcome.map (deepened depth) ∧
      (∀ c, (inferClass name 0 sample).outcome = .ok c → 0 < depth →
        (deepened depth c).lines options = nestedForm depth (c.lines options)) ∧
      ∀ c, (inferClass name depth sample).outcome = .ok c →
        List.Forall₂ (IsBlock options c) c.walk sample.objects ∧
          ∀ d ∈ ClassTree.walkAll c.nested, depth < d.depth := by
  refine ⟨?_, fun c ran right => ?_, fun c ran => ⟨?_, fun d below => ?_⟩⟩
  · simpa using infer_deepened depth sample name 0
  · exact lines_nested right (class_name_depth ran).2 (inferred_stepwise ran)
  · have tied := (List.forall₂_and_left (p := (· ∈ c.walk)) _ _).mpr ⟨fun _ => id, class_runs ran⟩
    exact tied.imp fun d members both => block_of_run both.1 both.2
  · exact (class_name_depth ran).2 ▸ nested_deeper (inferred_stepwise ran) d below

/-- Two classes nested in each other, the outer one behind a list. -/
def order : Sample :=
  .object [("items", .list [.object [("sku", .str "a"), ("size", .object [("w", .int 1)])]])]

theorem order_two_deep :
    ∃ c, (inferClass "Order" 0 order).outcome = .ok c ∧
      (inferClass "Order" 2 order).outcome = .ok (deepened 2 c) ∧
      (deepened 2 c).walk.map ClassTree.depth = [2, 3, 4] ∧
      (deepened 2 c).lines {} = nestedForm 2 (c.lines {}) ∧
      List.Forall₂ (IsBlock {} (deepened 2 c)) (deepened 2 c).walk order.objects := by
  obtain ⟨c, ran, depths⟩ : ∃ c, (inferClass "Order" 0 order).outcome = .ok c ∧
      (deepened 2 c).walk.map ClassTree.depth = [2, 3, 4] := ⟨_, rfl, rfl⟩
  obtain ⟨deeper, moved, blocks⟩ := nested_as_alone {} "Order" 2 order
  rw [ran] at deeper
  exact ⟨c, ran, deeper, depths, moved c ran (by decide), (blocks _ deeper).1⟩

end ClassMold.StandAlone
