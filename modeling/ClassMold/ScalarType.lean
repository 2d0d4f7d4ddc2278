import ClassMold.Text.CodePoint

/-!
The types that a declaration may name without declaring a class: three primitive types and two library
types. Types are compared by name, since a class called `String` would be taken for the library's.
-/
namespace ClassMold

/-- A type of the generated code that needs no class of its own. -/
inductive ScalarType where
  | boolean
  | int
  | float
  | string
  | object
  deriving DecidableEq

namespace ScalarType

/-- All of them. -/
def all : List ScalarType := [boolean, int, float, string, object]

/-- The name in a declaration. -/
def name : ScalarType → Text
  | boolean => "boolean"
  | int => "int"
  | float => "float"
  | string => "String"
  | object => "Object"

/-- The type with this name. -/
def named? (name : Text) : Option ScalarType := all.find? fun type => type.name == name

/-- The name of the class that wraps a primitive type; library types are their own. -/
def boxedName : ScalarType → Text
  | boolean => "Boolean"
  | int => "Integer"
  | float => "Float"
  | type => type.name

/-- The value of an unassigned variable. -/
def defaultLiteral : ScalarType → Text
  | boolean => "false"
  | int => "0"
  | float => "0.0f"
  | string => "null"
  | object => "null"

end ScalarType

/-- Whether a type name stands for a class that has to be generated. -/
def isCustomType (name : Text) : Bool := (ScalarType.named? name).isNone

end ClassMold
