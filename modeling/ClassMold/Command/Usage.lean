import ClassMold.Command.Grammar

/-!
What a command says about itself: its usage, wrapped to the width of a terminal, and its help.
-/
namespace ClassMold
namespace Command

/-- The name of the program. -/
def programName : Text := "gsonclassgen"

/-- The width of a line. -/
def lineWidth : Nat := 78

/-- The greatest column at which the help of an argument starts. -/
def helpColumnLimit : Nat := 24

/-- Spaces. -/
def spaces (count : Nat) : Text := List.replicate count (.scalar ' ')

/-- The parts put into lines, each after an indentation. The last line goes on while it has room. -/
def fillLines (indent : Nat) (line : List Text) (width : Nat) : List Text → List Text
  | [] => if line = [] then [] else [Text.joinWith " " line]
  | part :: rest =>
    if width + 1 + part.length > lineWidth ∧ line ≠ [] then
      Text.joinWith " " line :: fillLines indent [part] (indent + part.length) rest
    else fillLines indent (line ++ [part]) (width + 1 + part.length) rest

/-- The part of an option in the usage. -/
def OptionSpec.usage (o : OptionSpec) : Text :=
  let spelling := ((o.spellings.head?).map Spelling.text).getD []
  let value : Text :=
    match o.valueName with
    | none => []
    | some name => " " ++ name
  "[" ++ spelling ++ value ++ "]"

/-- The usage of a command. If it does not fit on one line, the arguments start one of their own. -/
def Grammar.usage (g : Grammar) : Text :=
  let start : Text := "usage: "
  let options := g.options.map OptionSpec.usage
  let arguments := g.arguments.map (·.name)
  let whole := start ++ Text.joinWith " " (programName :: options ++ arguments)
  let lines :=
    if whole.length ≤ lineWidth then [whole]
    else
      let indent := start.length + programName.length + 1
      let first := fillLines indent [] (start.length - 1) (programName :: options)
      let second := fillLines indent [] (indent - 1) arguments
      match first ++ second with
      | [] => []
      | head :: rest => (start ++ head) :: rest.map fun line => spaces indent ++ line
  Text.joinWith "\n" lines ++ "\n"

/-- How an option is called in the help. -/
def OptionSpec.invocation (o : OptionSpec) : Text :=
  let value : Text :=
    match o.valueName with
    | none => []
    | some name => " " ++ name
  Text.joinWith ", " (o.spellings.map fun s => s.text ++ value)

/-- An entry of the help at a column, or below if the name leaves no room. -/
def helpEntry (column : Nat) (name help : Text) : Text :=
  if name.length + 4 ≤ column then
    "  " ++ name ++ spaces (column - 2 - name.length) ++ help ++ "\n"
  else "  " ++ name ++ "\n" ++ spaces column ++ help ++ "\n"

/-- A section of the help. -/
def helpSection (column : Nat) (title : Text) (entries : List (Text × Text)) : Text :=
  if entries = [] then []
  else "\n" ++ title ++ ":\n" ++ entries.flatMap fun entry => helpEntry column entry.1 entry.2

/-- The help of a command. -/
def Grammar.help (g : Grammar) : Text :=
  let arguments := g.arguments.map fun a => (a.name, a.help)
  let options := g.options.map fun o => (o.invocation, o.help)
  let longest := ((arguments ++ options).map (·.1.length)).foldl max 0
  let column := min (longest + 4) helpColumnLimit
  g.usage ++ "\n" ++ g.description ++ "\n" ++
    helpSection column "positional arguments" arguments ++ helpSection column "options" options

/-- What is shown for a wrong command line. -/
def Grammar.complaint (g : Grammar) (error : UsageError) : Text :=
  g.usage ++ programName ++ ": error: " ++ error.message ++ "\n"

end Command
end ClassMold
