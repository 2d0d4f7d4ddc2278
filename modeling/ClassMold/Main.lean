import ClassMold.Command.Run

/-!
The program on a machine: its host are the files of the machine, and its words are those of the command
line.
-/
namespace ClassMold
namespace Machine

/-- The fault that an error of the operating system stands for. -/
def faultOf : IO.Error → Fault
  | .alreadyExists .. => .exists
  | .inappropriateType _ code _ => if code = 21 then .isDirectory else .notDirectory
  | .invalidArgument _ code _ => if code = 36 then .nameTooLong else .notDirectory
  | _ => .notFound

/-- A step on files with its error told by the path. -/
def attempt {α : Type} (path : Text) (step : String → IO α) : IO (Except FileError α) := do
  match pathError? path with
  | some error => return .error error
  | none =>
    try
      return .ok (← step path.toString)
    catch e => return .error (.refused (faultOf e) path)

/-- Whether there is a directory. -/
def isDirectory (path : Text) : IO Bool := do
  match ← attempt path fun p => do (← IO.FS.realPath p).isDir with
  | .ok found => return found
  | .error _ => return false

/-- The files of the machine. -/
def host (own stagingMark : Text) : Host IO where
  homes := ⟨own, []⟩
  stagingMark := stagingMark
  read path := attempt path fun p => do return (← IO.FS.readBinFile p).toList
  write path content := attempt path fun p => IO.FS.writeBinFile p (ByteArray.mk content.toArray)
  move source target := do
    match ← attempt source fun p => IO.FS.rename p target.toString with
    | .ok () => return .ok ()
    | .error (.refused fault _) => return .error (.moveRefused fault source target)
    | .error e => return .error e
  remove path := do
    let _ ← attempt path fun p => IO.FS.removeFile p
  createDirectory path := attempt path fun p => IO.FS.createDir p
  isDirectory := isDirectory

/-- A mark for the staging files of this run. -/
def stagingMark : IO Text := do
  let number ← IO.rand 1 99999
  let time ← IO.monoNanosNow
  return Text.ofNat number ++ "-" ++ Text.ofNat time

/-- Runs the program, prints what it prints and gives back the code that it ends with. -/
def run (words : List String) : IO UInt32 := do
  let own := (← IO.getEnv "HOME").getD "/"
  let host := host (Text.ofString own) (← stagingMark)
  let run ← Command.run host (words.map Text.ofString)
  (← IO.getStdout).putStr run.transcript.output.toString
  (← IO.getStderr).putStr run.transcript.errors.toString
  match run.ending with
  | .code code => return code.toUInt32
  | .escape error =>
    (← IO.getStderr).putStr (error.message ++ Text.ofString "\n").toString
    return 1

end Machine
end ClassMold

/-- The entry of the program. -/
def main (words : List String) : IO UInt32 := ClassMold.Machine.run words
