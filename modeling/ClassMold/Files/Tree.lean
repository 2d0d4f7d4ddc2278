import ClassMold.Files.Host

/-!
Files in memory: a tree of directories and files on which the program runs without a machine. A path is
followed step by step, and every step but the last has to lead into a directory.
-/
namespace ClassMold

/-- What stands at a place of a file tree. -/
inductive Entry where
  | directory
  | file (content : Bytes)
  deriving DecidableEq

/-- A tree of files. Places are the steps from the root; the root itself has no entry. -/
structure FileTree where
  /-- The directory that paths start from. -/
  working : List Text
  entries : List (List Text × Entry)

namespace FileTree

/-- The greatest number of bytes in a name. -/
def nameLimit : Nat := 255

/-- The number of bytes that a path has to stay below. -/
def pathLimit : Nat := 4096

/-- What stands at a place. -/
def entry? (tree : FileTree) (place : List Text) : Option Entry :=
  if place = [] then some .directory
  else (tree.entries.find? (·.1 == place)).map (·.2)

/-- The tree with an entry at a place. -/
def insert (tree : FileTree) (place : List Text) (entry : Entry) : FileTree :=
  { tree with entries := (place, entry) :: tree.entries.filter (·.1 != place) }

/-- The tree without an entry at a place. -/
def erase (tree : FileTree) (place : List Text) : FileTree :=
  { tree with entries := tree.entries.filter (·.1 != place) }

/-- An empty directory to work in. -/
def empty : FileTree :=
  let working : List Text := ["tmp", "work"]
  ⟨working, [(["tmp"], .directory), (working, .directory)]⟩

/-- One step from a directory. -/
def next (place : List Text) (step : Text) : Except Fault (List Text) :=
  if step = ".." then .ok place.dropLast
  else if fileNameSize step > nameLimit then .error .nameTooLong
  else .ok (place ++ [canonicalName step])

/-- The place that steps lead to from a directory. The last step may lead to nothing. -/
def follow (tree : FileTree) (place : List Text) : List Text → Except Fault (List Text)
  | [] => .ok place
  | [last] => next place last
  | step :: rest =>
    match next place step with
    | .error fault => .error fault
    | .ok inner =>
      match tree.entry? inner with
      | none => .error .notFound
      | some (.file _) => .error .notDirectory
      | some .directory => tree.follow inner rest

/-- The place that a path leads to. -/
def place (tree : FileTree) (path : Text) : Except FileError (List Text) :=
  match pathError? path with
  | some error => .error error
  | none =>
    if path = [] then .error (.refused .notFound path)
    else if fileNameSize path ≥ pathLimit then .error (.refused .nameTooLong path)
    else
      let ⟨start, steps⟩ := Path.ofText path
      match tree.follow (if start = .here then tree.working else []) steps with
      | .error fault => .error (.refused fault path)
      | .ok place => .ok place

/-- The content of a file. -/
def read (tree : FileTree) (path : Text) : Except FileError Bytes := do
  let place ← tree.place path
  match tree.entry? place with
  | none => .error (.refused .notFound path)
  | some .directory => .error (.refused .isDirectory path)
  | some (.file content) => .ok content

/-- The tree with a file of a given content. -/
def write (tree : FileTree) (path : Text) (content : Bytes) : Except FileError FileTree := do
  let place ← tree.place path
  match tree.entry? place with
  | some .directory => .error (.refused .isDirectory path)
  | _ => .ok (tree.insert place (.file content))

/-- The tree with a file at another place, where it replaces what is there. -/
def move (tree : FileTree) (source target : Text) : Except FileError FileTree := do
  let old ← tree.place source
  let new ← tree.place target
  match tree.entry? old with
  | none => .error (.moveRefused .notFound source target)
  | some entry =>
    if tree.entry? new = some .directory then .error (.moveRefused .isDirectory source target)
    else .ok ((tree.erase old).insert new entry)

/-- The tree without a file. -/
def remove (tree : FileTree) (path : Text) : FileTree :=
  match tree.place path with
  | .ok place => tree.erase place
  | .error _ => tree

/-- The tree with one more directory. -/
def createDirectory (tree : FileTree) (path : Text) : Except FileError FileTree := do
  let place ← tree.place path
  match tree.entry? place with
  | some _ => .error (.refused .exists path)
  | none => .ok (tree.insert place .directory)

/-- Whether a path leads to a directory. -/
def isDirectory (tree : FileTree) (path : Text) : Bool :=
  match tree.place path with
  | .ok place => tree.entry? place == some .directory
  | .error _ => false

/-- A step that changes a tree or fails and leaves it as it is. -/
def attempt (step : FileTree → Except FileError FileTree) :
    StateM FileTree (Except FileError Unit) := fun tree =>
  match step tree with
  | .ok changed => (.ok (), changed)
  | .error e => (.error e, tree)

/-- The host whose files are those of a tree. -/
def host (homes : Homes) (stagingMark : Text) : Host (StateM FileTree) where
  homes := homes
  stagingMark := stagingMark
  read path := do return (← get).read path
  write path content := attempt (·.write path content)
  move source target := attempt (·.move source target)
  remove path := modify (·.remove path)
  createDirectory path := attempt (·.createDirectory path)
  isDirectory path := do return (← get).isDirectory path

end FileTree
end ClassMold
