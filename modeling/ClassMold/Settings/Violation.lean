import ClassMold.Number.Decimal
import ClassMold.Settings.Store

/-!
Violations of the requirements on a configuration: which requirement, where, and by which value.
-/
namespace ClassMold

/-- The part of a configuration that a mapping stands for. -/
inductive Section where
  | runConfig
  | outputOptions
  deriving DecidableEq

/-- What messages call a part of a configuration. -/
def Section.name : Section → Text
  | runConfig => "GeneratorConfig"
  | outputOptions => "OutputOptions"

/-- A requirement on a value beyond its kind. -/
inductive Concern where
  /-- The path of the input holds nothing but white space. -/
  | blankInput
  /-- The class name is no identifier. -/
  | badClassName (name : Text)
  deriving DecidableEq

/-- The wording of a concern. -/
def Concern.message : Concern → Text
  | blankInput => "input must be a non-empty path"
  | badClassName name => "class_name " ++ name.quoted ++ " is not a legal Java identifier"

/-- The version that a configuration has to name. -/
def configVersion : Text := "1.0"

/-- The requirements that a value can violate. -/
inductive Requirement where
  /-- The setting has to be given. -/
  | present
  /-- The setting has to be a known one. -/
  | known
  /-- The key has to be a text. -/
  | textKey
  /-- The value has to be a text. -/
  | text
  /-- The value has to be a truth value. -/
  | truthValue
  /-- The value has to be the configuration version. -/
  | version
  /-- The text must not hold a lone surrogate. -/
  | encodable
  /-- The value has to be a mapping. -/
  | mapping (part : Section)
  /-- The value has to satisfy a further requirement. -/
  | satisfying (concern : Concern)
  /-- The value has to be left as it is. -/
  | unchanged
  deriving DecidableEq

namespace Requirement

/-- The code of a violation of the requirement. -/
def code : Requirement → Text
  | present => "missing"
  | known => "extra_forbidden"
  | textKey => "invalid_key"
  | text => "string_type"
  | truthValue => "bool_type"
  | version => "literal_error"
  | encodable => "string_unicode"
  | mapping _ => "model_type"
  | satisfying _ => "value_error"
  | unchanged => "frozen_instance"

/-- The wording of a violation of the requirement. -/
def message : Requirement → Text
  | present => "Field required"
  | known => "Extra inputs are not permitted"
  | textKey => "Keys should be strings"
  | text => "Input should be a valid string"
  | truthValue => "Input should be a valid boolean"
  | version => "Input should be '" ++ configVersion ++ "'"
  | encodable => "Input should be a valid string, unable to parse raw data as a unicode string"
  | mapping part => "Input should be a valid dictionary or instance of " ++ part.name
  | satisfying concern => "Value error, " ++ concern.message
  | unchanged => "Instance is frozen"

end Requirement

/-- One step on the way to a value. -/
inductive Step where
  | name (name : Text)
  | number (number : Int)
  deriving DecidableEq

/-- The step for a whole number that is too large for 64 bits, which is shown unless it is too long. -/
def Step.ofLargeNumber (value : Int) : Step :=
  if Decimal.isTooLong value then .name "<unprintable int object>" else .name (Text.ofInt value)

/-- The step for a key of any kind. A whole number is taken as one if it fits in 64 bits. -/
def Step.ofKey : Datum → Step
  | .str value => .name value
  | .bool value => .number value.toInt
  | .int value =>
    if -0x8000000000000000 ≤ value ∧ value < 0x8000000000000000 then .number value
    else .ofLargeNumber value
  | key => .name key.form

/-- A violated requirement, the way to the value that violates it, and that value. -/
structure Violation where
  requirement : Requirement
  location : List Step
  input : Datum

/-- The violation seen from a level further out. -/
def Violation.under (step : Step) (v : Violation) : Violation :=
  { v with location := step :: v.location }

end ClassMold
