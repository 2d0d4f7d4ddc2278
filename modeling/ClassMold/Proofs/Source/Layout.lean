import ClassMold.Proofs.Source.Legibility

/-! How the lines of a source are laid out. The tabs in front of a line come from
the depth that its class has stored, the braces come from the nesting itself; that
the two agree is seen row by row. A source is a chain of rows, each of which leads
from one level of bracketing to the next, and what a reader finds in the lines
follows from the rows. -/
namespace ClassMold.Layout
open CodePoint Alphabet StringLiterals Mirroring Parts Legibility

/-! ### What a reader finds -/

/-- The number of tabs in front of a line. -/
def tabCount (line : Text) : Nat := (line.takeWhile (· = .scalar '\t')).length

/-- What stands behind them. -/
def afterTabs (line : Text) : Text := line.dropWhile (· = .scalar '\t')

/-- The count of open blocks behind a line. -/
def levelAfter (level : Int) (line : Text) : Int :=
  if afterTabs line = openBrace then level + 1
  else if afterTabs line = closeBrace then level - 1
  else level

/-- The class that a line declares, by its indentation and its name. -/
def declaredClass? (line : Text) : Option (Int × Text) :=
  (classStarts.find? (·.isPrefixOf (afterTabs line))).map fun start =>
    (tabCount line, (afterTabs line).drop start.length)

/-- A line that stands where the count of open blocks wants it. -/
structure WellPlaced (level : Int) (line : Text) : Prop where
  bounded : 0 ≤ levelAfter level line
  closing : afterTabs line = closeBrace → tabCount line = levelAfter level line
  other : line ≠ [] → afterTabs line ≠ closeBrace → tabCount line = level

/-! ### Rows -/

/-- A line between two levels, with the class that it declares if it does. -/
inductive Row : Nat → Text → Option (Int × Text) → Nat → Prop where
  | blank (level : Nat) : Row level [] none level
  | content (level : Nat) {text : Text} (held : IsContent text) :
      Row level (indentation level ++ text) none level
  | declared (level : Nat) {name : Text} (word : IsWord name) :
      Row level (indentation level ++ classHeader name level) (some (level, name)) level
  | opened (level : Nat) : Row level (indentation level ++ openBrace) none (level + 1)
  | closed (level : Nat) : Row (level + 1) (indentation level ++ closeBrace) none level

/-- Lines that lead, row by row, from one level to another, and the classes that
they declare in their order. -/
inductive Laid : Nat → List Text → List (Int × Text) → Nat → Prop where
  | nil (level : Nat) : Laid level [] [] level
  | cons {level next last : Nat} {line : Text} {declared : Option (Int × Text)}
      {lines : List Text} {classes : List (Int × Text)} (row : Row level line declared next)
      (rest : Laid next lines classes last) :
      Laid level (line :: lines) (declared.toList ++ classes) last

variable {level next last : Nat} {line text name : Text} {lines more : List Text}
  {declared : Option (Int × Text)} {classes others : List (Int × Text)}

theorem indentation_succ (level : Nat) :
    indentation (level + 1) = indentation level ++ [.scalar '\t'] := by
  simp [indentation, show ((level : Int) + 1).toNat = level + 1 by omega, List.replicate_succ']

/-- Tabs end where something else begins. -/
theorem split_tabs (depth : Int) {first : CodePoint} (head : text.head? = some first)
    (plain : first ≠ .scalar '\t') :
    tabCount (indentation depth ++ text) = depth.toNat ∧ afterTabs (indentation depth ++ text) = text := by
  obtain ⟨rest, rfl⟩ := List.head?_eq_some_iff.mp head
  simp [tabCount, afterTabs, indentation, plain]

theorem indentation_in_line (level : Nat) : InLine (indentation level) := by
  intro c listed
  rw [List.eq_of_mem_replicate listed]
  decide

theorem class_header_starts (name : Text) (depth : Int) :
    ∃ start ∈ classStarts, classHeader name depth = start ++ name := by
  by_cases nested : 0 < depth
  · exact ⟨"public static final class ", by decide, by simp [classHeader, nested, Text.ofString]⟩
  · exact ⟨"public final class ", by decide, by simp [classHeader, nested, Text.ofString]⟩

theorem class_header_head (name : Text) (depth : Int) :
    (classHeader name depth).head? = some (.scalar 'p') := by
  obtain ⟨start, listed, header⟩ := class_header_starts name depth
  have starts : ∀ start ∈ classStarts, start.head? = some (.scalar 'p') := by decide
  simp [header, starts start listed]

theorem class_header_in_line (word : IsWord name) (depth : Int) : InLine (classHeader name depth) := by
  obtain ⟨start, listed, header⟩ := class_header_starts name depth
  have starts : ∀ start ∈ classStarts, InLine start := by decide
  exact header ▸ in_line_append.mpr ⟨starts start listed, word_in_line word⟩

/-- The first declaration that a line starts with is the only one. -/
theorem class_start_found {start : Text} (listed : start ∈ classStarts) (name : Text) :
    classStarts.find? (·.isPrefixOf (start ++ name)) = some start := by
  simp only [classStarts, List.mem_cons, List.not_mem_nil, or_false] at listed
  rcases listed with rfl | rfl <;> rfl

/-- What a reader finds in a row. -/
structure Reads (level : Nat) (line : Text) (declared : Option (Int × Text)) (next : Nat) : Prop where
  inLine : InLine line
  leads : levelAfter level line = next
  placed : WellPlaced level line
  declares : declaredClass? line = declared

/-- A row is read by the number of its tabs and by what stands behind them. -/
theorem reads_behind {tabs : Nat} {first : CodePoint} (head : text.head? = some first)
    (noTab : first ≠ .scalar '\t') (inLine : InLine text)
    (leads : (if text = openBrace then (level : Int) + 1
      else if text = closeBrace then (level : Int) - 1 else level) = next)
    (place : tabs = if text = closeBrace then next else level)
    (declares : ((classStarts.find? (·.isPrefixOf text)).map fun start =>
      ((tabs : Int), text.drop start.length)) = declared) :
    Reads level (indentation tabs ++ text) declared next := by
  obtain ⟨count, after⟩ := split_tabs tabs head noTab
  have reaches : levelAfter level (indentation tabs ++ text) = next := by rwa [levelAfter, after]
  refine ⟨in_line_append.mpr ⟨indentation_in_line tabs, inLine⟩, reaches,
    ⟨le_of_le_of_eq (Int.natCast_nonneg next) reaches.symm, fun closes => ?_, fun _ stays => ?_⟩, ?_⟩
  · rw [after] at closes
    rw [reaches, count, place, if_pos closes, Int.toNat_natCast]
  · rw [after] at stays
    rw [count, place, if_neg stays, Int.toNat_natCast]
  · rw [declaredClass?, after, count]
    exact declares

/-- What starts with none of the marks is told from indentation and braces. -/
theorem unmarked_start {first : CodePoint} (head : text.head? = some first)
    (plain : first ∉ layoutMarks) :
    first ≠ .scalar '\t' ∧ text ≠ openBrace ∧ text ≠ closeBrace := by
  refine ⟨fun same => plain (same ▸ by decide), ?_, ?_⟩
  · rintro rfl
    exact plain (Option.some.inj head ▸ by decide)
  · rintro rfl
    exact plain (Option.some.inj head ▸ by decide)

/-- A row that is no brace leaves the level as it is. -/
theorem reads_between {first : CodePoint} (head : text.head? = some first)
    (plain : first ∉ layoutMarks) (inLine : InLine text)
    (declares : ((classStarts.find? (·.isPrefixOf text)).map fun start =>
      ((level : Int), text.drop start.length)) = declared) :
    Reads level (indentation level ++ text) declared level := by
  obtain ⟨noTab, noOpen, noClose⟩ := unmarked_start head plain
  exact reads_behind head noTab inLine (by simp [noOpen, noClose]) (by simp [noClose]) declares

theorem row_reads (row : Row level line declared next) : Reads level line declared next := by
  cases row with
  | blank =>
    exact ⟨in_line_nil, rfl, ⟨Int.natCast_nonneg level, nofun, fun some => absurd rfl some⟩, rfl⟩
  | content _ held =>
    obtain ⟨first, head, plain⟩ := held.marked
    refine reads_between head plain held.inLine ?_
    rw [List.find?_eq_none.mpr, Option.map_none]
    intro start listed
    simpa using held.noClass start listed
  | @declared _ name word =>
    refine reads_between (class_header_head name level) (by decide) (class_header_in_line word level) ?_
    obtain ⟨start, listed, header⟩ := class_header_starts name level
    simp [header, class_start_found listed]
  | opened =>
    have distinct : openBrace ≠ closeBrace := by decide
    exact reads_behind rfl (by decide) (by decide) (by simp) (by simp [distinct]) rfl
  | closed =>
    have distinct : closeBrace ≠ openBrace := by decide
    exact reads_behind rfl (by decide) (by decide) (by simp [distinct]) (by simp) rfl

/-! ### Chains of rows -/

theorem laid_append {middle : Nat} (first : Laid level lines classes middle)
    (second : Laid middle more others last) :
    Laid level (lines ++ more) (classes ++ others) last := by
  induction first with
  | nil => exact second
  | cons row _ ih =>
    rw [List.append_assoc]
    exact .cons row (ih second)

/-- Parts that stay on a level can stand one after another. -/
theorem laid_parts {α : Type} {part : α → List Text} {items : List α}
    (each : ∀ item ∈ items, Laid level (part item) [] level) :
    Laid level (items.flatMap part) [] level := by
  induction items with
  | nil => exact .nil level
  | cons item items ih =>
    obtain ⟨first, rest⟩ := List.forall_mem_cons.mp each
    exact laid_append first (ih rest)

theorem laid_in_line (laid : Laid level lines classes last) : ∀ line ∈ lines, InLine line := by
  induction laid with
  | nil => exact nofun
  | cons row _ ih => exact List.forall_mem_cons.mpr ⟨(row_reads row).inLine, ih⟩

theorem laid_level (laid : Laid level lines classes last) :
    lines.foldl levelAfter (level : Int) = last := by
  induction laid with
  | nil => rfl
  | cons row _ ih => rw [List.foldl_cons, (row_reads row).leads, ih]

theorem laid_placed (laid : Laid level lines classes last) (before : List Text) {after : List Text}
    (split : lines = before ++ line :: after) :
    WellPlaced (before.foldl levelAfter (level : Int)) line := by
  induction laid generalizing before with
  | nil => exact absurd split.symm (by simp)
  | cons row _ ih =>
    cases before with
    | nil =>
      obtain ⟨rfl, -⟩ := List.cons.inj split
      exact (row_reads row).placed
    | cons earlier before =>
      obtain ⟨rfl, rest⟩ := List.cons.inj split
      rw [List.foldl_cons, (row_reads row).leads]
      exact ih before rest

theorem laid_classes (laid : Laid level lines classes last) :
    lines.filterMap declaredClass? = classes := by
  induction laid with
  | nil => rfl
  | @cons _ _ _ _ declared _ _ row _ ih =>
    rw [List.filterMap_cons, (row_reads row).declares, ih]
    cases declared <;> rfl

/-! ### Classes -/

variable {f : Field} {c : ClassTree}

theorem declaration_laid (options : OutputOptions) (legible : LegibleField f) (level : Nat) :
    Laid level (f.declarationLines (indentation level) options) [] level := by
  rw [declaration_lines]
  exact .cons (.blank level) (.cons (.content level (key_line_content f))
    (.cons (.content level (declaration_content options legible)) (.nil level)))

theorem method_laid (options : OutputOptions) {m : Method} (legible : LegibleMethod m) (level : Nat) :
    Laid level (m.lines options (indentation level)) [] level := by
  have body : Laid (level + 1)
      ((m.body options).flatMap fun line => [indentation (level + 1) ++ line]) [] (level + 1) := by
    refine laid_parts fun line listed => ?_
    exact .cons (.content (level + 1) (body_content options legible line listed)) (.nil _)
  have shape : m.lines options (indentation level) =
      [] :: (indentation level ++ m.header options) :: (indentation level ++ openBrace) ::
        (((m.body options).flatMap fun line => [indentation (level + 1) ++ line]) ++
          [indentation level ++ closeBrace]) := by
    simp [Method.lines, bracedLines, indentation_succ, Text.ofString, List.map_eq_flatMap]
  rw [shape]
  exact .cons (.blank level) (.cons (.content level (header_content options legible))
    (.cons (.opened level) (laid_append body (.cons (.closed level) (.nil level)))))

/-- Nested classes stand one level below the class that they are nested in. -/
def Stepwise (c : ClassTree) : Prop := ∀ inner ∈ c.nested, inner.depth = c.depth + 1

/-- What the declaration of a class shows of it. -/
def heading (c : ClassTree) : Int × Text := (c.depth, c.name)

theorem class_laid (options : OutputOptions) : ∀ (level : Nat), c.depth = level →
    (∀ d ∈ c.walk, Legible d) → (∀ d ∈ c.walk, Stepwise d) →
    Laid level (c.lines options) (c.walk.map heading) level := by
  refine (ClassTree.walk.mutual_induct
    (fun c => ∀ (level : Nat), c.depth = level → (∀ d ∈ c.walk, Legible d) →
      (∀ d ∈ c.walk, Stepwise d) → Laid level (c.lines options) (c.walk.map heading) level)
    (fun cs => ∀ (level : Nat), (∀ c ∈ cs, c.depth = level) →
      (∀ d ∈ ClassTree.walkAll cs, Legible d) → (∀ d ∈ ClassTree.walkAll cs, Stepwise d) →
      Laid level (ClassTree.nestedLines options cs) ((ClassTree.walkAll cs).map heading) level)
    ?_ ?_ ?_).1 c
  · intro name depth fields nested ih level placed legible stepwise
    obtain rfl : depth = level := placed
    rw [ClassTree.walk, List.forall_mem_cons] at legible stepwise
    have own : ∀ m ∈ methods options name fields, LegibleMethod m :=
      methods_legible options legible.1.name legible.1.fields
    have fieldsLaid := laid_parts fun f listed =>
      declaration_laid options (legible.1.fields f listed) (level + 1)
    have methodsLaid := laid_parts fun m listed => method_laid options (own m listed) (level + 1)
    have nestedLaid := ih (level + 1) (fun inner listed => stepwise.1 inner listed) legible.2 stepwise.2
    have inside := laid_append (laid_append fieldsLaid methodsLaid) nestedLaid
    have close := laid_append inside (.cons (.closed level) (.nil level))
    have whole := Laid.cons (.declared level legible.1.name) (.cons (.opened level) close)
    simpa [class_lines, ClassTree.walk, ClassTree.fields, ClassTree.name, ClassTree.depth, heading]
      using whole
  · intro level _ _ _
    exact .nil level
  · intro c rest ih ihRest level placed legible stepwise
    rw [List.forall_mem_cons] at placed
    rw [ClassTree.walkAll, List.forall_mem_append] at legible stepwise
    rw [ClassTree.nestedLines, ClassTree.walkAll, List.map_append]
    have first := ih level placed.1 legible.1 stepwise.1
    have others := ihRest level placed.2 legible.2 stepwise.2
    exact .cons (.blank level) (laid_append first others)

/-! ### Sources -/

variable {depth : Int} {sample : Sample}

theorem inferred_stepwise (ran : (inferClass name depth sample).outcome = .ok c) :
    ∀ d ∈ c.walk, Stepwise d :=
  fun d walked => (inferred_legible_inside ran d walked).depths

theorem inferred_laid (options : OutputOptions) (legal : name.isIdentifier = true)
    (ran : (inferClass name 0 sample).outcome = .ok c) :
    Laid 0 (c.lines options) (c.walk.map heading) 0 :=
  class_laid options 0 (class_name_depth ran).2
    (inferred_legible (identifier_word legal) (Int.le_refl 0) ran) (inferred_stepwise ran)

/-- A text of laid lines, as a reader sees it. -/
theorem laid_source (laid : Laid 0 lines classes 0) {source : Text}
    (written : source = lines.flatMap (· ++ Text.ofString "\n")) :
    .scalar '\r' ∉ source ∧
      (∀ before line after, source.splitAll (.scalar '\n') = before ++ line :: after →
        WellPlaced (before.foldl levelAfter 0) line) ∧
      (source.splitAll (.scalar '\n')).foldl levelAfter 0 = 0 ∧
      (source.splitAll (.scalar '\n')).filterMap declaredClass? = classes := by
  have inLine := laid_in_line laid
  have split : source.splitAll (.scalar '\n') = lines ++ [[]] := written ▸ split_lines inLine
  have whole : Laid 0 (lines ++ [[]]) classes 0 := by
    simpa using laid_append laid (.cons (.blank 0) (.nil 0))
  refine ⟨fun returns => ?_, fun before line after found => ?_, ?_, ?_⟩
  · rw [written] at returns
    obtain ⟨line, listed, inside⟩ := List.mem_flatMap.mp returns
    rcases List.mem_append.mp inside with own | ended
    · exact inLine line listed _ own (by decide)
    · exact absurd ended (by decide)
  · exact laid_placed whole before (split.symm.trans found)
  · rw [split]
    exact laid_level whole
  · rw [split]
    exact laid_classes whole

/-- The line above the class in a source file. -/
theorem import_content :
    IsContent "import com.google.gson.annotations.SerializedName;" :=
  content_at 0 (.scalar 'i') (.scalar 'i') (by decide) rfl (by decide) rfl (by decide)

/-- The source of a sample is well bracketed and indented. The count of open blocks
never becomes negative and ends at zero, each line stands where the count wants it,
and the lines that declare classes show the classes of the walk in its order, each
indented by its depth. -/
theorem source_well_laid (options : OutputOptions) (name : Text) (sample : Sample) (c : ClassTree)
    (source : Text) (legal : name.isIdentifier = true)
    (ran : (inferClass name 0 sample).outcome = .ok c)
    (rendered : source = c.render options ∨ source = c.renderFile options) :
    .scalar '\r' ∉ source ∧
      (∀ before line after, source.splitAll (.scalar '\n') = before ++ line :: after →
        WellPlaced (before.foldl levelAfter 0) line) ∧
      (source.splitAll (.scalar '\n')).foldl levelAfter 0 = 0 ∧
      (source.splitAll (.scalar '\n')).filterMap declaredClass? =
        c.walk.map fun d => (d.depth, d.name) := by
  have laid := inferred_laid options legal ran
  rcases rendered with alone | inFile
  · exact laid_source laid (alone.trans (render_lines options c))
  · have above : Laid 0 (Text.ofString "import com.google.gson.annotations.SerializedName;" :: [] ::
        c.lines options) (c.walk.map heading) 0 :=
      .cons (.content 0 import_content) (.cons (.blank 0) laid)
    refine laid_source above (inFile.trans ?_)
    rw [List.flatMap_cons, List.flatMap_cons, ← render_lines]
    rfl

/-- An object under a key that reads like the end of one class and the start of another. -/
def forgery : Sample :=
  .object [("\npublic final class A", .list [.object [("\x7b", .int 1)]])]

set_option maxRecDepth 2000 in
theorem forgery_well_laid :
    ∃ c, (inferClass "Root" 0 forgery).outcome = .ok c ∧
      ((c.renderFile ⟨true, true, true, true, true⟩).splitAll (.scalar '\n')).foldl levelAfter 0 = 0 ∧
      ((c.renderFile ⟨true, true, true, true, true⟩).splitAll (.scalar '\n')).filterMap declaredClass? =
        [(0, Text.ofString "Root"), (1, Text.ofString "PublicfinalclassA")] := by
  obtain ⟨c, ran, walked⟩ : ∃ c, (inferClass "Root" 0 forgery).outcome = .ok c ∧
      c.walk.map (fun d => (d.depth, d.name)) =
        [(0, Text.ofString "Root"), (1, Text.ofString "PublicfinalclassA")] := ⟨_, rfl, rfl⟩
  obtain ⟨-, -, level, classes⟩ := source_well_laid ⟨true, true, true, true, true⟩ "Root" forgery c
    (c.renderFile ⟨true, true, true, true, true⟩) (by decide) ran (.inr rfl)
  exact ⟨c, ran, level, classes.trans walked⟩

end ClassMold.Layout
