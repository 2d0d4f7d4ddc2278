import ClassMold.Files.Name
import ClassMold.Text.Quoted

/-!
What can go wrong with files, in the words of the operating system.
-/
namespace ClassMold

/-- The answers of the operating system to a path that it cannot serve. -/
inductive Fault where
  | notFound
  | exists
  | notDirectory
  | isDirectory
  | nameTooLong
  deriving DecidableEq

/-- The number of a fault. -/
def Fault.number : Fault → Nat
  | notFound => 2
  | «exists» => 17
  | notDirectory => 20
  | isDirectory => 21
  | nameTooLong => 36

/-- The wording of a fault. -/
def Fault.message : Fault → Text
  | notFound => "No such file or directory"
  | «exists» => "File exists"
  | notDirectory => "Not a directory"
  | isDirectory => "Is a directory"
  | nameTooLong => "File name too long"

/-- Why a step on files fails. -/
inductive FileError where
  /-- The operating system refuses a path. -/
  | refused (fault : Fault) (path : Text)
  /-- The operating system refuses to move a file. -/
  | moveRefused (fault : Fault) (source target : Text)
  /-- The path holds U+0000. -/
  | nullInPath
  /-- The path holds a surrogate that stands for no byte. -/
  | unencodablePath (error : Utf8.EncodeError)
  deriving DecidableEq

/-- The wording of an error. -/
def FileError.message : FileError → Text
  | refused fault path =>
    "[Errno " ++ Text.ofNat fault.number ++ "] " ++ fault.message ++ ": " ++ path.quoted
  | moveRefused fault source target =>
    "[Errno " ++ Text.ofNat fault.number ++ "] " ++ fault.message ++ ": " ++ source.quoted ++
      " -> " ++ target.quoted
  | nullInPath => "embedded null byte"
  | unencodablePath error => error.message

/-- Whether the operating system is the one that refuses. -/
def FileError.isRefusal : FileError → Bool
  | refused .. => true
  | moveRefused .. => true
  | nullInPath => false
  | unencodablePath _ => false

/-- The first surrogates in a path that stand for no bytes, after a number of other code points. -/
def unencodableFrom? (position : Nat) : Text → Option Utf8.EncodeError
  | [] => none
  | .scalar _ :: rest => unencodableFrom? (position + 1) rest
  | .surrogate offset :: rest =>
    if standsForByte offset then unencodableFrom? (position + 1) rest
    else some ⟨position, 0xD800 + offset.val, (rest.takeWhile Utf8.isSurrogate).length + 1⟩

/-- The fault of a path that cannot be handed to the operating system at all. -/
def pathError? (path : Text) : Option FileError :=
  match unencodableFrom? 0 path with
  | some error => some (.unencodablePath error)
  | none => if path.contains (.scalar '\x00') then some .nullInPath else none

end ClassMold
