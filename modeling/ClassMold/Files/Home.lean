import ClassMold.Files.Fault
import ClassMold.Files.Path

/-!
Home directories. A path that starts with a tilde starts in the home directory of a user: of the one at work
unless a name follows the tilde.
-/
namespace ClassMold

/-- Where users have their directories: the one at work, and others by name. -/
structure Homes where
  own : Text
  others : List (Text × Text)

/-- Why a home directory cannot be found. -/
inductive HomeError where
  /-- There is no such user. -/
  | unknown
  /-- The name cannot be handed to the operating system. -/
  | badName (error : FileError)
  deriving DecidableEq

/-- The wording of an error. -/
def HomeError.message : HomeError → Text
  | unknown => "Could not determine home directory."
  | badName error => error.message

/-- The home directory that a tilde with a name after it stands for. -/
def Homes.find (homes : Homes) (user : Text) : Except HomeError Text :=
  if user = [] then .ok homes.own
  else
    match pathError? user, homes.others.find? (·.1 == user) with
    | some error, _ => .error (.badName error)
    | none, some (_, home) => .ok home
    | none, none => .error .unknown

/-- A path with a home directory in place of a tilde. -/
def Path.expandHome (homes : Homes) (p : Path) : Except HomeError Path :=
  match p.start, p.steps with
  | .here, (.scalar '~' :: user) :: rest =>
    (homes.find user).map fun home =>
      let home := Path.ofText home
      { home with steps := home.steps ++ rest }
  | _, _ => .ok p

/-- The path of the generated file for a class. -/
def sourcePath (homes : Homes) (outputDir className : Text) : Except HomeError Path :=
  ((Path.ofText outputDir).expandHome homes).map fun directory =>
    directory.append (Path.ofText (className ++ ".java"))

end ClassMold
