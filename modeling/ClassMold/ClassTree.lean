import ClassMold.Field

/-!
Generated classes with the classes nested in them.
-/
namespace ClassMold

/-- A class, its fields in order and the classes nested in it. The depth is the indentation at which
the class is written. -/
inductive ClassTree where
  | node (name : Text) (depth : Int) (fields : List Field) (nested : List ClassTree)

namespace ClassTree

/-- The name of the class. -/
def name : ClassTree → Text
  | node name _ _ _ => name

/-- The indentation of the class. -/
def depth : ClassTree → Int
  | node _ depth _ _ => depth

/-- The fields of the class itself. -/
def fields : ClassTree → List Field
  | node _ _ fields _ => fields

/-- The classes nested directly in the class. -/
def nested : ClassTree → List ClassTree
  | node _ _ _ nested => nested

/-- Whether the class is written inside another one. -/
def isNested (c : ClassTree) : Bool := c.depth > 0

/-- The first field with a name. -/
def field? (c : ClassTree) (name : Text) : Option Field := c.fields.find? (·.name == name)

mutual

/-- The class and all classes below it, each before those nested in it. -/
def walk : ClassTree → List ClassTree
  | node name depth fields nested => node name depth fields nested :: walkAll nested

/-- The walks of several classes one after another. -/
def walkAll : List ClassTree → List ClassTree
  | [] => []
  | c :: rest => c.walk ++ walkAll rest

end

end ClassTree
end ClassMold
