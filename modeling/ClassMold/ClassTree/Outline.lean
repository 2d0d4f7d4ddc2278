import ClassMold.ClassTree
import ClassMold.Document.Basic

/-!
The outline of a class tree: all that was inferred, as a document.
-/
namespace ClassMold

/-- What was inferred about a field. -/
def Field.outline (f : Field) : Document :=
  .object [
    ("json_key", .str f.key),
    ("name", .str f.name),
    ("type", .str f.typeName),
    ("array_depth", .int f.arrayDepth),
    ("custom_type", .bool f.isCustom)]

namespace ClassTree

mutual

/-- What was inferred about a class and those nested in it. -/
def outline : ClassTree → Document
  | node name depth fields nested =>
    .object [
      ("class_name", .str name),
      ("depth", .int depth),
      ("fields", .list (fields.map Field.outline)),
      ("nested_classes", .list (outlineAll nested))]

/-- The outlines of several classes. -/
def outlineAll : List ClassTree → List Document
  | [] => []
  | c :: rest => c.outline :: outlineAll rest

end

end ClassTree
end ClassMold
