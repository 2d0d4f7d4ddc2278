import ClassMold.Naming
import ClassMold.ScalarType

/-!
The fields of a generated class: the key that a field stands for, the name and the type it is declared
with, and the texts that declarations and accessors need.
-/
namespace ClassMold

/-- A field. Its type is `typeName` with `arrayDepth` pairs of brackets; a depth below one means no
array. -/
structure Field where
  key : Text
  name : Text
  typeName : Text
  arrayDepth : Int
  /-- Whether the type is a generated class. -/
  isCustom : Bool
  deriving DecidableEq

namespace Field

/-- Whether the field holds an array. -/
def isArray (f : Field) : Bool := f.arrayDepth > 0

/-- What follows `get` or `set` in the names of the field's accessors. -/
def accessorName (f : Field) : Text := capitalized f.name

/-- The type of a single element, as a class if primitive types are boxed. -/
def elementType (f : Field) (boxed : Bool) : Text :=
  if boxed then ((ScalarType.named? f.typeName).map ScalarType.boxedName).getD f.typeName
  else f.typeName

/-- The type as it is declared. -/
def declaredType (f : Field) (boxed : Bool) : Text :=
  f.elementType boxed ++ (List.replicate f.arrayDepth.toNat (Text.ofString "[]")).flatten

/-- The literal for a field without a value. Arrays and boxed values can only be null. -/
def defaultLiteral (f : Field) (boxed : Bool) : Text :=
  if boxed || f.isArray then "null"
  else ((ScalarType.named? f.typeName).map ScalarType.defaultLiteral).getD "null"

/-- The name of the class of one element: an array field has a plural type name until its class is
built. -/
def className (f : Field) : Text := if f.isArray then singular f.typeName else f.typeName

end Field
end ClassMold
