import ClassMold.Text.Category
import ClassMold.Text.Quoted

/-!
Command lines: the arguments and options that a command takes, and how a list of words is read as such.
Long options may be abbreviated as long as only one fits, short ones may be joined, and options may stand
between the other arguments.
-/
namespace ClassMold
namespace Command

/-- What an option is for. -/
inductive Switch where
  | help
  | verbose
  | outputDir
  | stdout
  | getters
  | setters
  | finalFields
  | fieldConstructor
  | boxedPrimitives
  | out
  deriving DecidableEq

/-- An option. -/
structure OptionSpec where
  switch : Switch
  /-- The letter after a single hyphen. -/
  letter : Option Char
  /-- The name after two hyphens. -/
  name : Text
  /-- What stands for the value in the usage, if the option takes one. -/
  valueName : Option Text
  help : Text
  deriving DecidableEq

/-- An argument that has to be given. -/
structure ArgumentSpec where
  name : Text
  help : Text
  deriving DecidableEq

/-- What a command takes. -/
structure Grammar where
  description : Text
  arguments : List ArgumentSpec
  options : List OptionSpec

/-- How an option is written. -/
inductive Spelling where
  | short (letter : Char)
  | long (name : Text)
  deriving DecidableEq

/-- The text of a spelling. -/
def Spelling.text : Spelling → Text
  | short letter => [.scalar '-', .scalar letter]
  | long name => "--" ++ name

/-- All spellings of an option. -/
def OptionSpec.spellings (o : OptionSpec) : List Spelling :=
  (o.letter.map Spelling.short).toList ++ [.long o.name]

/-- What messages call an option. -/
def OptionSpec.title (o : OptionSpec) : Text := Text.joinWith "/" (o.spellings.map Spelling.text)

/-- What is wrong with a command line. -/
inductive UsageError where
  /-- An abbreviation fits several options. -/
  | ambiguous (word : Text) (fitting : List Text)
  /-- An option that takes no value has one. -/
  | valueIgnored (option : OptionSpec) (value : Text)
  /-- An option that takes a value has none. -/
  | valueMissing (option : OptionSpec)
  | argumentsMissing (names : List Text)
  | unrecognized (words : List Text)
  deriving DecidableEq

/-- The wording of an error. -/
def UsageError.message : UsageError → Text
  | ambiguous word fitting =>
    "ambiguous option: " ++ word ++ " could match " ++ Text.joinWith ", " fitting
  | valueIgnored option value =>
    "argument " ++ option.title ++ ": ignored explicit argument " ++ value.quoted
  | valueMissing option => "argument " ++ option.title ++ ": expected one argument"
  | argumentsMissing names => "the following arguments are required: " ++ Text.joinWith ", " names
  | unrecognized words => "unrecognized arguments: " ++ Text.joinWith " " words

/-! ### Words -/

/-- The word that divides plain words from the others. -/
def dividerText : Text := "--"

/-- A word of a command line as it is first seen. -/
inductive Word where
  | plain (text : Text)
  /-- Two hyphens, after which all words are plain. -/
  | divider
  /-- An option, with a value if one is attached. -/
  | option (option : OptionSpec) (spelling : Spelling) (value : Option Text)
  /-- A word that looks like an option but is none. -/
  | unknown (text : Text)

namespace Grammar

/-- All options with all their spellings. -/
def spellings (g : Grammar) : List (OptionSpec × Spelling) :=
  g.options.flatMap fun o => o.spellings.map fun s => (o, s)

/-- The option with exactly this spelling. -/
def spelled? (g : Grammar) (word : Text) : Option (OptionSpec × Spelling) :=
  g.spellings.find? fun entry => entry.2.text == word

/-- The option with a letter. -/
def lettered? (g : Grammar) (letter : CodePoint) : Option (OptionSpec × Spelling) :=
  g.spelled? [.scalar '-', letter]

end Grammar

/-- A word up to the first equals sign, and what follows that. -/
def splitValue (word : Text) : Text × Option Text :=
  match word.dropWhile (· != .scalar '=') with
  | [] => (word, none)
  | _ :: value => (word.takeWhile (· != .scalar '='), some value)

/-- The options that a word with two hyphens abbreviates. -/
def abbreviated (g : Grammar) (word : Text) : List Word :=
  let (start, value) := splitValue word
  (g.spellings.filter fun entry => entry.2.text.startsWith start).map fun entry =>
    .option entry.1 entry.2 value

/-- The options that a word with one hyphen may mean: one with its letter, or a longer one. -/
def lettered (g : Grammar) (word : Text) : List Word :=
  g.spellings.filterMap fun (option, spelling) =>
    if spelling.text = word.take 2 then some (.option option spelling (some (word.drop 2)))
    else if spelling.text.startsWith word then some (.option option spelling none)
    else none

/-- Whether a word is a negative number. A line feed at its end does not count. -/
def isNegativeNumber (word : Text) : Bool :=
  match if word.endsWith "\n" then word.dropLast else word with
  | .scalar '-' :: rest =>
    let whole := rest.takeWhile CodePoint.isDecimalDigit
    match rest.drop whole.length with
    | [] => whole != []
    | .scalar '.' :: fraction => fraction != [] && fraction.all CodePoint.isDecimalDigit
    | _ => false
  | _ => false

/-- What a word is that means one of some options, or none. -/
def settle (word : Text) (options : List Word) : Except UsageError Word :=
  match options with
  | [] =>
    if isNegativeNumber word || word.contains (.scalar ' ') then .ok (.plain word)
    else .ok (.unknown word)
  | [option] => .ok option
  | several =>
    .error (.ambiguous word (several.filterMap fun
      | .option _ spelling _ => some spelling.text
      | _ => none))

/-- What a word before any divider is. -/
def classify (g : Grammar) (word : Text) : Except UsageError Word :=
  match word with
  | .scalar '-' :: second :: _ =>
    match g.spelled? word with
    | some (option, spelling) => .ok (.option option spelling none)
    | none =>
      let (start, value) := splitValue word
      match value, g.spelled? start with
      | some value, some (option, spelling) => .ok (.option option spelling (some value))
      | _, _ => settle word (if second = .scalar '-' then abbreviated g word else lettered g word)
  | _ => .ok (.plain word)

/-- What the words of a command line are. -/
def classifyAll (g : Grammar) : List Text → Except UsageError (List Word)
  | [] => .ok []
  | word :: rest =>
    if word = dividerText then .ok (.divider :: rest.map .plain)
    else
      match classify g word with
      | .error e => .error e
      | .ok first =>
        match classifyAll g rest with
        | .error e => .error e
        | .ok others => .ok (first :: others)

/-! ### Arguments -/

/-- What is given for an argument or as the value of an option. -/
inductive Given where
  | word (text : Text)
  /-- Two hyphens stand where a word should; they are taken for a divider, so that no word is left. -/
  | nothing
  deriving DecidableEq

/-- What a text gives where a word should stand. -/
def Given.ofText (t : Text) : Given := if t = dividerText then .nothing else .word t

/-- The word that is given, if there is one. -/
def Given.text : Given → Text
  | word t => t
  | nothing => []

/-- What is given, as messages show it: a word in quotes, or a list without words. -/
def Given.quoted : Given → Text
  | word t => t.quoted
  | nothing => "[]"

/-- What a command line gives. -/
structure Arguments where
  /-- The arguments in order. -/
  values : List Given
  /-- The options in order, with their values. -/
  options : List (OptionSpec × Given)
  /-- The words that have no place. -/
  extras : List Text

namespace Arguments

/-- Whether an option is given. -/
def has (a : Arguments) (switch : Switch) : Bool := a.options.any (·.1.switch == switch)

/-- The value of an option; of several the last. -/
def value? (a : Arguments) (switch : Switch) : Option Given :=
  (a.options.reverse.find? (·.1.switch == switch)).map (·.2)

/-- An argument by its position. -/
def value (a : Arguments) (position : Nat) : Given := a.values.getD position .nothing

end Arguments

/-- Why the reading of a command line stops. -/
inductive Stop where
  | help
  | wrong (error : UsageError)
  deriving DecidableEq

/-- The options that are joined in one word, each with its value if it has one. Only the last can be
without a value that it needs. -/
def unjoin (g : Grammar) (option : OptionSpec) (isShort : Bool) :
    Text → Except Stop (List (OptionSpec × Option Text))
  | [] =>
    if option.valueName.isSome then .ok [(option, some [])]
    else .error (.wrong (.valueIgnored option []))
  | letter :: rest =>
    if option.valueName.isSome then .ok [(option, some (letter :: rest))]
    else if isShort then
      match g.lettered? letter with
      | none => .error (.wrong (.valueIgnored option (letter :: rest)))
      | some (next, _) =>
        if rest = [] then .ok [(option, none), (next, none)]
        else
          match unjoin g next true rest with
          | .error stop => .error stop
          | .ok others => .ok ((option, none) :: others)
    else .error (.wrong (.valueIgnored option (letter :: rest)))

/-- Whether a spelling is a short one. -/
def Spelling.isShort : Spelling → Bool
  | short _ => true
  | long _ => false

/-- The options of a word. -/
def optionsOf (g : Grammar) (option : OptionSpec) (spelling : Spelling) (value : Option Text) :
    Except Stop (List (OptionSpec × Option Text)) :=
  match value with
  | none => .ok [(option, none)]
  | some value => unjoin g option spelling.isShort value

/-- Takes options one after another. -/
def takeOptions (a : Arguments) : List (OptionSpec × Option Text) → Except Stop Arguments
  | [] => .ok a
  | (option, value) :: rest =>
    if option.switch = .help then .error .help
    else
      takeOptions { a with options := a.options ++ [(option, Given.ofText (value.getD []))] } rest

/-- Whether the last of some options still needs a value. -/
def needsValue (options : List (OptionSpec × Option Text)) : Option OptionSpec :=
  match options.getLast? with
  | some (option, none) => if option.valueName.isSome then some option else none
  | _ => none

/-- The words with one more that has no place. -/
def Arguments.addExtra (a : Arguments) (word : Text) : Arguments :=
  { a with extras := a.extras ++ [word] }

/-- The words with one more argument. -/
def Arguments.addValue (a : Arguments) (value : Given) : Arguments :=
  { a with values := a.values ++ [value] }

/-- Takes the words of a command line for a command with so many arguments. A divider belongs to the
argument next to it, the one before it if there is one. -/
def takeWords (g : Grammar) (a : Arguments) : List Word → Except Stop Arguments
  | [] => .ok a
  | .plain text :: .divider :: rest =>
    if a.values.length < g.arguments.length then
      takeWords g (a.addValue (.word text)) rest
    else takeWords g ((a.addExtra text).addExtra dividerText) rest
  | .plain text :: rest =>
    if a.values.length < g.arguments.length then
      takeWords g (a.addValue (Given.ofText text)) rest
    else takeWords g (a.addExtra text) rest
  | .divider :: .plain text :: rest =>
    if a.values.length < g.arguments.length then
      takeWords g (a.addValue (.word text)) rest
    else takeWords g ((a.addExtra dividerText).addExtra text) rest
  | .divider :: rest => takeWords g (a.addExtra dividerText) rest
  | .unknown text :: rest => takeWords g (a.addExtra text) rest
  | .option option spelling value :: .plain text :: rest =>
    match optionsOf g option spelling value with
    | .error stop => .error stop
    | .ok options =>
      match needsValue options with
      | some needing =>
        match takeOptions a (options.dropLast ++ [(needing, some text)]) with
        | .error stop => .error stop
        | .ok a => takeWords g a rest
      | none =>
        match takeOptions a options with
        | .error stop => .error stop
        | .ok a => takeWords g a (.plain text :: rest)
  | .option option spelling value :: rest =>
    match optionsOf g option spelling value with
    | .error stop => .error stop
    | .ok options =>
      match needsValue options with
      | some needing => .error (.wrong (.valueMissing needing))
      | none =>
        match takeOptions a options with
        | .error stop => .error stop
        | .ok a => takeWords g a rest
termination_by words => words.length
decreasing_by
  all_goals simp only [List.length_cons]; omega

/-- Reads a command line. -/
def Grammar.read (g : Grammar) (words : List Text) : Except Stop Arguments :=
  match classifyAll g words with
  | .error e => .error (.wrong e)
  | .ok words =>
    match takeWords g ⟨[], [], []⟩ words with
    | .error stop => .error stop
    | .ok a =>
      let missing := (g.arguments.drop a.values.length).map (·.name)
      if missing ≠ [] then .error (.wrong (.argumentsMissing missing))
      else if a.extras ≠ [] then .error (.wrong (.unrecognized a.extras))
      else .ok a

end Command
end ClassMold
