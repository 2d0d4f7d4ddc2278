/-!
The choices that shape the generated source.
-/
namespace ClassMold

/-- What the generated classes contain. -/
structure OutputOptions where
  /-- A getter for each field. -/
  getters : Bool := false
  /-- A setter for each field. -/
  setters : Bool := false
  /-- Final fields, and a constructor without parameters that assigns them. -/
  finalFields : Bool := false
  /-- A constructor with one parameter for each field. -/
  fieldConstructor : Bool := false
  /-- Classes in place of primitive types. -/
  boxedPrimitives : Bool := false
  deriving DecidableEq

end ClassMold
