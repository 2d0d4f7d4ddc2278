import ClassMold.Files.Host
import ClassMold.Inference
import ClassMold.Sample.Reader
import ClassMold.Source
import ClassMold.Text.Utf8

/-!
Generation of a source file from a sample file. The source is first written to a staging file beside its
target and then moved there, so that the target is never seen half written; whatever goes wrong, no
staging file is left.
-/
namespace ClassMold

/-! ### Samples from files -/

/-- Why no sample can be read from a file. -/
inductive SampleFileError where
  /-- The home directory that the path starts with cannot be found. -/
  | homeless (error : HomeError)
  | unreadable (error : FileError)
  /-- The bytes are no text. -/
  | undecodable (error : Utf8.DecodeError)
  /-- The text is no sample. -/
  | malformed (error : Sample.ReadError)
  deriving DecidableEq

namespace SampleFileError

/-- Whether the file, rather than its path or the size of a number in it, is to blame. -/
def blamesFile : SampleFileError → Bool
  | homeless _ => false
  | unreadable error => error.isRefusal
  | undecodable _ => true
  | malformed (.malformed ..) => true
  | malformed (.tooManyDigits _) => false

/-- What is wrong. -/
def reason : SampleFileError → Text
  | homeless error => error.message
  | unreadable error => error.message
  | undecodable error => error.message
  | malformed error => error.message

/-- The wording of an error. -/
def message (e : SampleFileError) : Text :=
  if e.blamesFile then "Invalid JSON: " ++ e.reason else e.reason

end SampleFileError

/-- The sample in the bytes of a file. Line ends are made one kind before the text is read. -/
def Sample.ofBytes (content : Bytes) : Except SampleFileError Sample :=
  match Utf8.decode content with
  | .error e => .error (.undecodable e)
  | .ok t => (Sample.read t.unifyLineEnds).mapError .malformed

variable {m : Type → Type} [Monad m]

/-- The sample in a file. -/
def readSample (host : Host m) (path : Text) : m (Except SampleFileError Sample) := do
  match (Path.ofText path).expandHome host.homes with
  | .error e => return .error (.homeless e)
  | .ok path =>
    match ← host.read path.toText with
    | .error e => return .error (.unreadable e)
    | .ok content => return Sample.ofBytes content

/-! ### Source files -/

/-- Why a source file cannot be written. -/
inductive SourceFileError where
  /-- The home directory that the output directory starts with cannot be found. -/
  | homeless (error : HomeError)
  | unwritable (error : FileError)
  /-- The source has no bytes. -/
  | unencodable (error : Utf8.EncodeError)
  deriving DecidableEq

/-- The wording of an error. -/
def SourceFileError.message : SourceFileError → Text
  | homeless error => error.message
  | unwritable error => error.message
  | unencodable error => error.message

/-- The staging file for a target. -/
def stagingPath (mark : Text) (target : Path) : Path :=
  target.sibling (".tmp-" ++ target.fileName ++ "-" ++ mark)

/-- Puts a text in place by way of its staging file, which is made before the text is known to have
bytes. -/
def replaceFile (host : Host m) (staging target : Text) (content : Text) :
    m (Except SourceFileError Unit) := do
  match ← host.write staging [] with
  | .error e => return .error (.unwritable e)
  | .ok () =>
    match Utf8.encode content with
    | .error e =>
      host.remove staging
      return .error (.unencodable e)
    | .ok bytes =>
      match ← host.write staging bytes with
      | .error e =>
        host.remove staging
        return .error (.unwritable e)
      | .ok () =>
        match ← host.move staging target with
        | .error e =>
          host.remove staging
          return .error (.unwritable e)
        | .ok () => return .ok ()

/-- Writes the source of a class tree to its place below a directory, which is made if need be. -/
def writeSource (host : Host m) (c : ClassTree) (outputDir : Text) (options : OutputOptions) :
    m (Reported SourceFileError Path) := do
  match sourcePath host.homes outputDir c.name with
  | .error e => return .quietly (.error (.homeless e))
  | .ok target =>
    match ← host.createDirectories target.parent with
    | .error e => return .quietly (.error (.unwritable e))
    | .ok () =>
      let staging := stagingPath host.stagingMark target
      match ← replaceFile host staging.toText target.toText (c.renderFile options) with
      | .error e => return .quietly (.error e)
      | .ok () => return ⟨[.wrote target.toText c.walk.length], .ok target⟩

/-! ### From sample to source -/

/-- Why no source file comes of a sample file. -/
inductive GenerationError where
  | input (error : SampleFileError)
  | inference (error : InferenceError)
  | output (error : SourceFileError)
  deriving DecidableEq

namespace GenerationError

/-- The wording of an error. -/
def message : GenerationError → Text
  | input error => error.message
  | inference error => error.message
  | output error => error.message

/-- Whether there is no user whose home directory a path starts with. -/
def isHomeUnknown (e : GenerationError) : Bool :=
  e = .input (.homeless .unknown) || e = .output (.homeless .unknown)

end GenerationError

/-- The class tree of the sample in a file. -/
def inferFile (host : Host m) (input className : Text) : m (Reported GenerationError ClassTree) := do
  match ← readSample host input with
  | .error e => return .quietly (.error (.input e))
  | .ok sample => return (inferClass className 0 sample).wrapError .inference

/-- Generates the source file for the sample in a file. -/
def generate (host : Host m) (input className outputDir : Text) (options : OutputOptions) :
    m (Reported GenerationError Path) := do
  let inferred ← inferFile host input className
  match inferred.outcome with
  | .error e => return ⟨inferred.notices, .error e⟩
  | .ok c =>
    let written ← writeSource host c outputDir options
    return ⟨inferred.notices ++ written.notices, (written.wrapError .output).outcome⟩

end ClassMold
