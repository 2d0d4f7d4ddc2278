import ClassMold.ClassTree
import ClassMold.OutputOptions
import ClassMold.Text.Escaped

/-!
The source of a class tree, as lines. A class is written with each brace on a line of its own, its
members one tab deeper, and the nested classes last. Every member follows a blank line.
-/
namespace ClassMold

/-- The tabs in front of a line at a depth. -/
def indentation (depth : Int) : Text := List.replicate depth.toNat (.scalar '\t')

/-- A line that opens a block. -/
def openBrace : Text := "\x7b"

/-- A line that closes a block. -/
def closeBrace : Text := "\x7d"

/-- A member with a body: a blank line, the header, and the body one tab deeper between braces. -/
def bracedLines (tabs header : Text) (body : List Text) : List Text :=
  [[], tabs ++ header, tabs ++ openBrace] ++
    body.map (fun line => tabs ++ "\t" ++ line) ++ [tabs ++ closeBrace]

namespace Field

/-- The declaration of a field, under the annotation that keeps its key. -/
def declarationLines (f : Field) (tabs : Text) (options : OutputOptions) : List Text :=
  let modifiers : Text := if options.finalFields then "private final" else "private"
  [ [],
    tabs ++ "@SerializedName(" ++ f.key.literal ++ ")",
    tabs ++ modifiers ++ " " ++ f.declaredType options.boxedPrimitives ++ " " ++ f.name ++ ";" ]

/-- The field as a parameter. -/
def parameter (f : Field) (options : OutputOptions) : Text :=
  "final " ++ f.declaredType options.boxedPrimitives ++ " " ++ f.name

/-- The assignment of the parameter with the field's name. -/
def assignment (f : Field) : Text := "this." ++ f.name ++ " = " ++ f.name ++ ";"

/-- The assignment of the field's default. -/
def defaultAssignment (f : Field) (options : OutputOptions) : Text :=
  f.name ++ " = " ++ f.defaultLiteral options.boxedPrimitives ++ ";"

/-- The accessors of a field. -/
def accessorLines (f : Field) (tabs : Text) (options : OutputOptions) : List Text :=
  let type := f.declaredType options.boxedPrimitives
  (if options.getters then
    bracedLines tabs ("public final " ++ type ++ " get" ++ f.accessorName ++ "()")
      ["return " ++ f.name ++ ";"]
  else []) ++
  (if options.setters then
    bracedLines tabs ("public final void set" ++ f.accessorName ++ "(" ++ f.parameter options ++ ")")
      [f.assignment]
  else [])

end Field

/-- The constructor that takes a value for each field. -/
def fullConstructorLines (name : Text) (fields : List Field) (tabs : Text)
    (options : OutputOptions) : List Text :=
  bracedLines tabs
    ("public " ++ name ++ "(" ++ Text.joinWith ", " (fields.map (·.parameter options)) ++ ")")
    (fields.map Field.assignment)

/-- The constructor without parameters. It leaves the assignments to the other one if there is one. -/
def emptyConstructorLines (name : Text) (fields : List Field) (tabs : Text)
    (options : OutputOptions) : List Text :=
  bracedLines tabs ("public " ++ name ++ "()")
    (if options.fieldConstructor then
      ["this(" ++ Text.joinWith ", " (fields.map (·.defaultLiteral options.boxedPrimitives)) ++ ");"]
    else fields.map (·.defaultAssignment options))

/-- The constructors of a class. Final fields have to be assigned, so with them there is always one
without parameters. -/
def constructorLines (name : Text) (fields : List Field) (tabs : Text) (options : OutputOptions) :
    List Text :=
  (if options.fieldConstructor then fullConstructorLines name fields tabs options else []) ++
  (if options.finalFields then emptyConstructorLines name fields tabs options else [])

/-- The first line of a class. -/
def classHeader (name : Text) (depth : Int) : Text :=
  (if depth > 0 then "public static" else "public") ++ " final class " ++ name

namespace ClassTree

mutual

/-- The lines of a class. -/
def lines (options : OutputOptions) : ClassTree → List Text
  | node name depth fields nested =>
    let tabs := indentation depth
    let memberTabs := indentation (depth + 1)
    [tabs ++ classHeader name depth, tabs ++ openBrace] ++
      fields.flatMap (·.declarationLines memberTabs options) ++
      constructorLines name fields memberTabs options ++
      fields.flatMap (·.accessorLines memberTabs options) ++
      nestedLines options nested ++
      [tabs ++ closeBrace]

/-- The lines of nested classes, each after a blank line. -/
def nestedLines (options : OutputOptions) : List ClassTree → List Text
  | [] => []
  | c :: rest => [] :: c.lines options ++ nestedLines options rest

end

/-- The text of a class: its lines, each ended by a line feed. -/
def render (options : OutputOptions) (c : ClassTree) : Text :=
  Text.joinWith "\n" (c.lines options) ++ "\n"

/-- A whole source file: the import that the annotations need, a blank line and the class. -/
def renderFile (options : OutputOptions) (c : ClassTree) : Text :=
  "import com.google.gson.annotations.SerializedName;" ++ "\n\n" ++ c.render options

end ClassTree
end ClassMold
