import ClassMold.Proofs.Source.UniqueReading

/-! The members of a class, as they are read off its lines. A reader keeps the blocks
that are open, each with what it has seen in it so far; a brace opens a block under the
line above it or closes the innermost one. In a class no other line looks like a brace,
whatever its name and its keys are, so its lines are read as what they were written for:
its fields, its methods and the classes nested in it. -/
namespace ClassMold.Members
open Alphabet StringLiterals Mirroring Parts Legibility Layout UniqueReading

/-! ### A reader -/

/-- A line, or a block under its header. -/
inductive Item where
  | line (text : Text)
  | block (header : Text) (inside : List Item)

/-- What has been read so far: the items of the innermost open block, and the headers of
the blocks that are open, each with the items before it. The last ones come first. -/
structure Reading where
  seen : List Item
  around : List (Text × List Item)

namespace Reading

/-- A brace opens a block under the line that was read last. -/
def opened : Reading → Reading
  | ⟨.line header :: before, around⟩ => ⟨[], (header, before) :: around⟩
  | r => r

/-- A brace closes the innermost block. -/
def closed : Reading → Reading
  | ⟨inside, (header, before) :: around⟩ => ⟨.block header inside.reverse :: before, around⟩
  | r => r

/-- One line further. Blank lines are passed over. -/
def next (r : Reading) (line : Text) : Reading :=
  if line = [] then r
  else if afterTabs line = openBrace then r.opened
  else if afterTabs line = closeBrace then r.closed
  else { r with seen := .line (afterTabs line) :: r.seen }

end Reading

/-- The items of some lines. -/
def items (lines : List Text) : List Item := (lines.foldl Reading.next ⟨[], []⟩).seen.reverse

/-- Lines that are read as some items, wherever they stand. -/
def Reads (lines : List Text) (found : List Item) : Prop :=
  ∀ seen around, lines.foldl Reading.next ⟨seen, around⟩ = ⟨found.reverse ++ seen, around⟩

/-- A text that is no brace and does not start with a tab. -/
def Shows (text : Text) : Prop := ∃ first, text.head? = some first ∧ first ∉ layoutMarks

variable {text header : Text} {lines more : List Text} {found others : List Item}

theorem reads_items (reads : Reads lines found) : items lines = found := by
  simp [items, reads [] []]

theorem reads_nil : Reads [] [] := fun _ _ => rfl

theorem reads_append (first : Reads lines found) (second : Reads more others) :
    Reads (lines ++ more) (found ++ others) := by
  intro seen around
  rw [List.foldl_append, first, second, List.reverse_append, List.append_assoc]

theorem reads_parts {α : Type} {part : α → List Text} {read : α → List Item} {parts : List α}
    (each : ∀ p ∈ parts, Reads (part p) (read p)) : Reads (parts.flatMap part) (parts.flatMap read) := by
  induction parts with
  | nil => exact reads_nil
  | cons p parts ih =>
    obtain ⟨first, rest⟩ := List.forall_mem_cons.mp each
    exact reads_append first (ih rest)

theorem reads_blank : Reads [[]] [] := fun _ _ => rfl

theorem shown_next (depth : Int) (shows : Shows text) (r : Reading) :
    r.next (indentation depth ++ text) = { r with seen := .line text :: r.seen } := by
  obtain ⟨first, head, plain⟩ := shows
  obtain ⟨noTab, noOpen, noClose⟩ := unmarked_start head plain
  have after := (split_tabs depth head noTab).2
  have some : indentation depth ++ text ≠ [] := by
    intro empty
    simp [(List.append_eq_nil_iff.mp empty).2] at head
  simp [Reading.next, after, noOpen, noClose, some]

theorem open_next (depth : Int) (r : Reading) : r.next (indentation depth ++ openBrace) = r.opened := by
  have after : afterTabs (indentation depth ++ openBrace) = openBrace :=
    (split_tabs depth (show openBrace.head? = some (.scalar '\x7b') from rfl) (by decide)).2
  have some : indentation depth ++ openBrace ≠ [] := by simp [openBrace, Text.ofString]
  simp [Reading.next, after, some]

theorem close_next (depth : Int) (r : Reading) : r.next (indentation depth ++ closeBrace) = r.closed := by
  have after : afterTabs (indentation depth ++ closeBrace) = closeBrace :=
    (split_tabs depth (show closeBrace.head? = some (.scalar '\x7d') from rfl) (by decide)).2
  have some : indentation depth ++ closeBrace ≠ [] := brace_nonempty depth
  have distinct : closeBrace ≠ openBrace := by decide
  simp [Reading.next, after, some, distinct]

theorem reads_line (depth : Int) (shows : Shows text) : Reads [indentation depth ++ text] [.line text] :=
  fun _ _ => shown_next depth shows _

/-- What stands between braces is read as one block. -/
theorem reads_block (depth : Int) (shows : Shows header) (inside : Reads lines found) :
    Reads ((indentation depth ++ header) :: (indentation depth ++ openBrace) ::
      (lines ++ [indentation depth ++ closeBrace])) [.block header found] := by
  intro seen around
  simp only [List.foldl_cons, List.foldl_append, List.foldl_nil, shown_next depth shows, open_next,
    close_next]
  rw [Reading.opened, inside, Reading.closed]
  simp

/-! ### Members -/

/-- What is read of a class: the annotations and declarations of its fields, its
constructors and its accessors, each a header with the lines of a body, and what is nested. -/
structure Body where
  declarations : List (Text × Text)
  constructors : List (Text × List Text)
  accessors : List (Text × List Text)
  nested : List Item

namespace Body

/-- The items between the braces of the class. -/
def inside (b : Body) : List Item :=
  b.declarations.flatMap (fun pair => [.line pair.1, .line pair.2]) ++
    (b.constructors ++ b.accessors).map (fun method => .block method.1 (method.2.map .line)) ++ b.nested

/-- The lines of the class itself, the braces and what is nested apart. -/
def ownLines (b : Body) : List Text :=
  b.declarations.flatMap (fun pair => [pair.1, pair.2]) ++
    (b.constructors ++ b.accessors).flatMap (fun method => method.1 :: method.2)

end Body

/-- A method as it is read. -/
def methodRead (options : OutputOptions) (m : Method) : Text × List Text :=
  (m.header options, m.body options)

/-- What a reader finds in a class. -/
def bodyRead (options : OutputOptions) (c : ClassTree) : Body where
  declarations := c.fields.map fun f => (keyLine f, declaration options f)
  constructors := (constructors options c.name c.fields).map (methodRead options)
  accessors := (c.fields.flatMap (accessors options)).map (methodRead options)
  nested := c.nested.flatMap fun inner => items (inner.lines options)

variable {options : OutputOptions} {f : Field} {fields : List Field} {c : ClassTree}

theorem content_shows (content : IsContent text) : Shows text := content.marked

theorem declaration_reads (options : OutputOptions) (depth : Int) (legible : LegibleField f) :
    Reads (f.declarationLines (indentation depth) options)
      [.line (keyLine f), .line (declaration options f)] := by
  rw [declaration_lines]
  have key := reads_line depth (content_shows (key_line_content f))
  have declared := reads_line depth (content_shows (declaration_content options legible))
  exact reads_append reads_blank (reads_append key declared)

theorem method_reads {m : Method} (depth : Int) (body : ∀ line ∈ m.body options, Shows line) :
    Reads (m.lines options (indentation depth))
      [.block (m.header options) ((m.body options).map .line)] := by
  -- Below depth zero the tabs are those of depth zero, and a body has one more.
  have deeper : ∀ line, indentation depth ++ Text.ofString "\t" ++ line =
      indentation (max depth 0 + 1) ++ line := by
    intro line
    have tabs : (max depth 0 + 1).toNat = depth.toNat + 1 := by omega
    simp [indentation, tabs, List.replicate_succ', Text.ofString]
  have inside : Reads ((m.body options).flatMap fun line => [indentation (max depth 0 + 1) ++ line])
      ((m.body options).flatMap fun line => [.line line]) :=
    reads_parts fun line listed => reads_line _ (body line listed)
  have whole := reads_append reads_blank
    (reads_block depth ⟨_, header_head options m, by decide⟩ inside)
  simpa [Method.lines, bracedLines, deeper, List.map_eq_flatMap] using whole

/-- The body of a method does not depend on the name of its class, which is not checked. -/
theorem methods_show (options : OutputOptions) (name : Text) (each : ∀ f ∈ fields, LegibleField f) :
    ∀ m ∈ methods options name fields, ∀ line ∈ m.body options, Shows line := by
  intro m listed line inside
  refine content_shows ?_
  rcases method_cases listed with rfl | rfl | ⟨f, member, rfl | rfl⟩
  · exact body_content options (m := .fullConstructor [] fields) ⟨is_word_nil, each⟩ line inside
  · exact body_content options (m := .emptyConstructor [] fields) ⟨is_word_nil, each⟩ line inside
  · exact body_content options (m := .getter f) (each f member) line inside
  · exact body_content options (m := .setter f) (each f member) line inside

theorem class_header_shows (name : Text) (depth : Int) : Shows (classHeader name depth) :=
  ⟨_, class_header_head name depth, by decide⟩

/-- A class is read as one block under its header, which holds its members. -/
theorem class_reads (options : OutputOptions) : (∀ d ∈ c.walk, ∀ f ∈ d.fields, LegibleField f) →
    Reads (c.lines options) [.block (classHeader c.name c.depth) (bodyRead options c).inside] := by
  refine (ClassTree.walk.mutual_induct
    (fun c => (∀ d ∈ c.walk, ∀ f ∈ d.fields, LegibleField f) →
      Reads (c.lines options) [.block (classHeader c.name c.depth) (bodyRead options c).inside])
    (fun cs => (∀ d ∈ ClassTree.walkAll cs, ∀ f ∈ d.fields, LegibleField f) →
      Reads (ClassTree.nestedLines options cs) (cs.flatMap fun inner => items (inner.lines options)))
    ?_ ?_ ?_).1 c
  · intro name depth fields nested ih legible
    rw [ClassTree.walk, List.forall_mem_cons] at legible
    have own : ∀ f ∈ fields, LegibleField f := legible.1
    -- Field by field, method by method, and the nested classes by the hypothesis.
    have fieldsRead := reads_parts fun f listed => declaration_reads options (depth + 1) (own f listed)
    have methodsRead := reads_parts fun m listed =>
      method_reads (depth + 1) (methods_show options name own m listed)
    have inside := reads_append (reads_append fieldsRead methodsRead) (ih legible.2)
    have whole := reads_block depth (class_header_shows name depth) inside
    rw [class_lines]
    simpa [bodyRead, Body.inside, methods, methodRead, ClassTree.fields, ClassTree.name,
      ClassTree.depth, ClassTree.nested, List.flatMap_map, List.map_eq_flatMap,
      List.flatMap_assoc] using whole
  · intro _
    exact reads_nil
  · intro c rest ih ihRest legible
    rw [ClassTree.walkAll, List.forall_mem_append] at legible
    have first := ih legible.1
    rw [ClassTree.nestedLines, List.flatMap_cons, reads_items first]
    exact reads_append (reads_append reads_blank first) (ihRest legible.2)

/-- A class that is read as one block under its header, with so many constructors and the
classes nested in it last. -/
structure ReadAs (options : OutputOptions) (d : ClassTree) (body : Body) : Prop where
  block : items (d.lines options) = [.block (classHeader d.name d.depth) body.inside]
  constructors : body.constructors.length =
    options.fieldConstructor.toNat + options.finalFields.toNat
  nested : body.nested = d.nested.flatMap fun inner => items (inner.lines options)

/-- Lines do not look like blocks, so it can be told where the fields of a class end. -/
theorem fields_end {pairs others : List (Text × Text)} {blocks more : List (Text × List Text)}
    (same : pairs.flatMap (fun pair => [Item.line pair.1, .line pair.2]) ++
        blocks.map (fun method => .block method.1 (method.2.map .line)) =
      others.flatMap (fun pair => [Item.line pair.1, .line pair.2]) ++
        more.map (fun method => .block method.1 (method.2.map .line))) :
    pairs = others ∧ blocks = more := by
  induction pairs generalizing others with
  | nil =>
    cases others with
    | nil =>
      refine ⟨rfl, List.map_injective_iff.mpr (fun method other equal => ?_) same⟩
      obtain ⟨headers, bodies⟩ := Item.block.inj equal
      exact Prod.ext headers (List.map_injective_iff.mpr (fun _ _ => Item.line.inj) bodies)
    | cons pair others => cases blocks <;> cases same
  | cons pair pairs ih =>
    cases others with
    | nil => cases more <;> cases same
    | cons other others =>
      obtain ⟨first, behind⟩ := List.cons.inj same
      obtain ⟨second, rest⟩ := List.cons.inj behind
      obtain ⟨rfl, methods⟩ := ih rest
      exact ⟨congrArg (· :: pairs) (Prod.ext (Item.line.inj first) (Item.line.inj second)), methods⟩

/-- A class has one reading. -/
theorem read_unique {d : ClassTree} {body other : Body} (reads : ReadAs options d body)
    (readsOther : ReadAs options d other) : body = other := by
  obtain ⟨declarations, constructors, accessors, nested⟩ := body
  obtain ⟨declared, constructed, accessed, inner⟩ := other
  obtain rfl : nested = inner := reads.nested.trans readsOther.nested.symm
  have blocks := reads.block.symm.trans readsOther.block
  obtain ⟨-, insides⟩ := Item.block.inj (List.cons.inj blocks).1
  obtain ⟨rfl, methods⟩ := fields_end (List.append_cancel_right insides)
  obtain ⟨rfl, rfl⟩ := List.append_inj methods (reads.constructors.trans readsOther.constructors.symm)
  rfl

/-- Every class of a tree that was inferred is read so, whatever the name of its root. -/
theorem inferred_reads (options : OutputOptions) {name : Text} {depth : Int} {sample : Sample}
    (ran : (inferClass name depth sample).outcome = .ok c) :
    ∀ d ∈ c.walk, ReadAs options d (bodyRead options d) := by
  intro d walked
  obtain ⟨members, -, own⟩ := partner_of_mem (class_runs ran) walked
  have legible : ∀ inner ∈ d.walk, ∀ f ∈ inner.fields, LegibleField f :=
    fun inner listed => (inferred_legible_inside own inner listed).fields
  refine ⟨reads_items (class_reads options legible), ?_, rfl⟩
  simp only [bodyRead, List.length_map, Parts.constructors]
  cases options.fieldConstructor <;> cases options.finalFields <;> rfl

end ClassMold.Members
