import ClassMold.ClassTree
import ClassMold.Notice
import ClassMold.Sample
import ClassMold.Text.Quoted

/-!
Inference of a class tree from a sample. Arrays are taken to be homogeneous, so everywhere only the
first element counts. An object becomes a class, its members become fields, and an object under a
member becomes a nested class unless its type name is taken by a scalar type.
-/
namespace ClassMold

/-- Why no class tree can be inferred. -/
inductive InferenceError where
  /-- The sample is an empty array. -/
  | emptyArray (className : Text)
  /-- The sample is neither an object nor an array. -/
  | shapeless (className kindName : Text)
  /-- A member holds a value of a kind that has no type. -/
  | unresolvable (key kindName : Text)
  deriving DecidableEq

/-- The wording of an error. -/
def InferenceError.message : InferenceError → Text
  | emptyArray className => "Cannot infer class " ++ className ++ ": the sample array is empty"
  | shapeless className kindName =>
    "Cannot infer class " ++ className ++ ": expected a JSON object or array, got " ++ kindName
  | unresolvable key kindName =>
    "No type can be determined for JSON key " ++ key.quoted ++ " (python type: " ++ kindName ++ ")"

/-- The type name of a value that is not an array. -/
def resolveElement (key : Text) : Sample → Except InferenceError Text
  | .object _ => .ok (typeName key)
  | .null => .ok ScalarType.object.name
  | .bool _ => .ok ScalarType.boolean.name
  | .int _ => .ok ScalarType.int.name
  | .float _ => .ok ScalarType.float.name
  | .str _ => .ok ScalarType.string.name
  | .foreign ⟨_, some type⟩ => .ok type.name
  | value => .error (.unresolvable key value.kindName)

/-- The type name of the value under a key; for an array the type of its elements. -/
def resolveType (key : Text) (value : Sample) : Except InferenceError Text :=
  resolveElement key value.core

/-- The field for a member of an object. -/
def Field.ofMember (key : Text) (value : Sample) : Except InferenceError Field := do
  let type ← resolveType key value
  let depth := value.arrayDepth
  return {
    key
    name := fieldName key (depth > 0)
    typeName := type
    arrayDepth := depth
    isCustom := isCustomType type }

/-- A step of an inference. -/
abbrev Inference := Reported InferenceError

mutual

/-- The class tree of a sample, for a class of this name at this depth. -/
def inferClass (name : Text) (depth : Int) : Sample → Inference ClassTree
  | .list [] => .quietly (.error (.emptyArray name))
  | .list (first :: _) => inferClass name depth first
  | .object members => do
    let (fields, nested) ← inferMembers depth members
    Reported.report (.built name depth fields.length nested.length)
    return .node name depth fields nested
  | value => .quietly (.error (.shapeless name value.kindName))

/-- The fields of the members of an object and the classes that they need, both in order. A field
names its class exactly as that class is declared. -/
def inferMembers (depth : Int) :
    List (Text × Sample) → Inference (List Field × List ClassTree)
  | [] => return ([], [])
  | (key, value) :: rest => do
    let field ← Reported.quietly (Field.ofMember key value)
    if field.isCustom then
      let field := { field with typeName := field.className }
      let inner ← inferClass field.typeName (depth + 1) value
      let (fields, nested) ← inferMembers depth rest
      return (field :: fields, inner :: nested)
    else
      let (fields, nested) ← inferMembers depth rest
      return (field :: fields, nested)

end

end ClassMold
