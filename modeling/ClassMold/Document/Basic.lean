import ClassMold.Number.Binary64
import ClassMold.Text.CodePoint

/-!
Documents that the program writes as JSON.
-/
namespace ClassMold

/-- A JSON document to be written. Members stay in the order given. -/
inductive Document where
  | null
  | bool (value : Bool)
  | int (value : Int)
  | float (value : Binary64)
  | str (value : Text)
  | list (items : List Document)
  | object (members : List (Text × Document))

end ClassMold
