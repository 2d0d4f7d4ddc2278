import ClassMold.Text.CodePoint

/-!
What the program reports about its work beside its result: notices, each with a level and the name of
the part that gives it. Who runs the program decides which levels are shown.
-/
namespace ClassMold

/-- How important a notice is, in rising order. -/
inductive Level where
  | debug
  | info
  | warning
  deriving DecidableEq

/-- The rank of a level. -/
def Level.rank : Level → Nat
  | debug => 0
  | info => 1
  | warning => 2

/-- The name of a level. -/
def Level.name : Level → Text
  | debug => "DEBUG"
  | info => "INFO"
  | warning => "WARNING"

/-- One report. -/
inductive Notice where
  /-- A class is finished; the classes nested in it are finished before. -/
  | built (className : Text) (depth : Int) (fields nested : Nat)
  /-- Setters were asked for together with final fields. -/
  | settersDisabled
  /-- A source file is in place. -/
  | wrote (path : Text) (classes : Nat)
  deriving DecidableEq

namespace Notice

/-- The level of a notice. -/
def level : Notice → Level
  | built .. => .debug
  | settersDisabled => .warning
  | wrote .. => .info

/-- The part of the program that gives a notice. -/
def origin : Notice → Text
  | built .. => "gsonclassgen.builder"
  | settersDisabled => "gsonclassgen.config"
  | wrote .. => "gsonclassgen.api"

/-- The wording of a notice. -/
def message : Notice → Text
  | built className depth fields nested =>
    "Built class " ++ className ++ " (depth " ++ Text.ofInt depth ++ ") with " ++ Text.ofNat fields ++
      " fields and " ++ Text.ofNat nested ++ " nested classes"
  | settersDisabled => "setters are disabled because final_fields is enabled"
  | wrote path classes => "Wrote " ++ path ++ " (" ++ Text.ofNat classes ++ " classes)"

/-- A notice as a line of its own. -/
def line (n : Notice) : Text := n.level.name ++ " " ++ n.origin ++ ": " ++ n.message

end Notice

/-- What a step reports, and what it yields or why it stops. -/
structure Reported (ε α : Type) where
  notices : List Notice
  outcome : Except ε α

namespace Reported

instance {ε : Type} : Monad (Reported ε) where
  pure value := ⟨[], .ok value⟩
  bind step next :=
    match step.outcome with
    | .error e => ⟨step.notices, .error e⟩
    | .ok value =>
      let rest := next value
      ⟨step.notices ++ rest.notices, rest.outcome⟩

/-- A step that reports nothing. -/
def quietly {ε α : Type} (outcome : Except ε α) : Reported ε α := ⟨[], outcome⟩

/-- A step that only reports. -/
def report {ε : Type} (notice : Notice) : Reported ε Unit := ⟨[notice], .ok ()⟩

/-- A step whose error is part of another one. -/
def wrapError {ε δ α : Type} (wrap : ε → δ) (step : Reported ε α) : Reported δ α :=
  ⟨step.notices, step.outcome.mapError wrap⟩

end Reported
end ClassMold
