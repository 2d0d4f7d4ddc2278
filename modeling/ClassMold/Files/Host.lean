import ClassMold.Files.Home

/-!
What the program needs of the world: steps on files, the home directories, and a mark that makes the
name of a staging file its own. The steps are given for any monad, so that the program runs on the files
of a machine and on a file tree alike.
-/
namespace ClassMold

/-- The outside of the program. Paths are given as they are to be shown in errors. -/
structure Host (m : Type → Type) where
  /-- The home directories. -/
  homes : Homes
  /-- What tells staging files of different runs apart. -/
  stagingMark : Text
  /-- The content of a file. -/
  read : Text → m (Except FileError Bytes)
  /-- Creates a file or replaces its content. -/
  write : Text → Bytes → m (Except FileError Unit)
  /-- Moves a file over another one. -/
  move : Text → Text → m (Except FileError Unit)
  /-- Removes a file. -/
  remove : Text → m Unit
  /-- Creates a directory. -/
  createDirectory : Text → m (Except FileError Unit)
  /-- Whether there is a directory. -/
  isDirectory : Text → m Bool

namespace Host

variable {m : Type → Type} [Monad m]

/-- Creates a directory and, as far as they are missing, the ones above it. It is no error if the
directory is there already. The list holds the steps of the path from the last to the first. -/
def createDirectoriesAlong (host : Host m) (start : PathStart) :
    List Text → m (Except FileError Unit)
  | [] => createHere (Path.toText ⟨start, []⟩)
  | step :: above => do
    let path := Path.toText ⟨start, (step :: above).reverse⟩
    match ← host.createDirectory path with
    | .ok () => return .ok ()
    | .error (.refused .notFound _) =>
      match ← createDirectoriesAlong host start above with
      | .error e => return .error e
      | .ok () => createHere path
    | .error e => settle path e
where
  /-- An error is none if the directory is there. -/
  settle (path : Text) (e : FileError) : m (Except FileError Unit) := do
    if e.isRefusal then
      if ← host.isDirectory path then return .ok ()
    return .error e
  /-- Creates a single directory. -/
  createHere (path : Text) : m (Except FileError Unit) := do
    match ← host.createDirectory path with
    | .ok () => return .ok ()
    | .error (.refused .notFound path) => return .error (.refused .notFound path)
    | .error e => settle path e

/-- Creates a directory with all the ones above it. -/
def createDirectories (host : Host m) (p : Path) : m (Except FileError Unit) :=
  host.createDirectoriesAlong p.start p.steps.reverse

end Host
end ClassMold
