import ClassMold.Inference
import ClassMold.Source

/-!
A sample that shows at once what the library does: its class tree, as one line for each class, and the
source that comes of it.
-/
namespace ClassMold
namespace Showcase

/-- An employee. -/
def sample : Sample :=
  .object [
    ("id", .int 1),
    ("name", .str "Ajay"),
    ("email", .str "ajay@example.com"),
    ("isActive", .bool true),
    ("salary", .float (Binary64.ofDecimal false 5500075 (-2))),
    ("address", .object [
      ("street", .str "MG Road"),
      ("city", .str "Bangalore"),
      ("zip", .int 560001)]),
    ("skills", .list [.str "Java", .str "Python", .str "Kafka"]),
    ("projects", .list [.object [
      ("title", .str "search"),
      ("tags", .list [.str "a", .str "b"])]])]

/-- The options under which the source is shown. -/
def options : OutputOptions := { getters := true, finalFields := true, fieldConstructor := true }

/-- A class with the names of its fields. -/
def classLine (c : ClassTree) : Text :=
  c.name ++ ": [" ++ Text.joinWith ", " (c.fields.map (·.name.quoted)) ++ "]\n"

/-- What is shown of a class tree. -/
def present (c : ClassTree) : Text := c.walk.flatMap classLine ++ c.renderFile options ++ "\n"

/-- The whole text. -/
def text : Except InferenceError Text := (inferClass "Employee" 0 sample).outcome.map present

end Showcase
end ClassMold
