import ClassMold.Number.Binary64
import ClassMold.ScalarType

/-!
Sample documents: the values that JSON can write, and values of other kinds that a caller may put into
a sample by hand.
-/
namespace ClassMold

/-- A kind of value that JSON cannot write: what it is called, and the type that a field holding it is
declared with, if there is one. -/
structure ForeignKind where
  name : Text
  fieldType : Option ScalarType
  deriving DecidableEq

/-- A sample document. The keys of an object are distinct when it comes from the reader. -/
inductive Sample where
  | null
  | bool (value : Bool)
  | int (value : Int)
  | float (value : Binary64)
  | str (value : Text)
  | list (items : List Sample)
  | object (members : List (Text × Sample))
  | foreign (kind : ForeignKind)

namespace Sample

instance : Inhabited Sample := ⟨null⟩

/-- What messages call the kind of a value. -/
def kindName : Sample → Text
  | null => "NoneType"
  | bool _ => "bool"
  | int _ => "int"
  | float _ => "float"
  | str _ => "str"
  | list _ => "list"
  | object _ => "dict"
  | foreign kind => kind.name

/-- The number of times a first element can be taken, counting the empty list as one more. -/
def arrayDepth : Sample → Nat
  | list [] => 1
  | list (first :: _) => first.arrayDepth + 1
  | _ => 0

/-- What is reached by taking first elements; an empty list holds null as it were. -/
def core : Sample → Sample
  | list [] => null
  | list (first :: _) => first.core
  | other => other

/-- The value of a member; of several with one key the first. -/
def member? (key : Text) : Sample → Option Sample
  | object members => (members.find? (·.1 == key)).map (·.2)
  | _ => none

end Sample
end ClassMold
