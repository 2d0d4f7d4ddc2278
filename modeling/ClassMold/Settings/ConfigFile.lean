import ClassMold.Files.Host
import ClassMold.Markup.Value
import ClassMold.Sample.Reader
import ClassMold.Settings.Store
import ClassMold.Text.Utf8

/-!
Configuration files. The ending of a file's name tells whether it holds JSON or markup.
-/
namespace ClassMold

/-- Why a configuration file cannot be read. -/
inductive ConfigFileError where
  /-- The name has none of the known endings. -/
  | unknownFormat
  | unreadable (error : FileError)
  | undecodable (error : Utf8.DecodeError)
  | badJson (error : Sample.ReadError)
  | badMarkup (refusal : Markup.Refusal)
  deriving DecidableEq

/-- The wording of an error, for a file with a path. -/
def ConfigFileError.message (path : Text) : ConfigFileError → Text
  | unknownFormat => "Config file must be .json or .yaml"
  | unreadable error => error.message
  | undecodable error => error.message
  | badJson error => error.message
  | badMarkup refusal => refusal.message path

/-- The formats of configuration files. -/
inductive ConfigFormat where
  | json
  | markup
  deriving DecidableEq

/-- The format of the file with a path. -/
def ConfigFormat.ofPath? (path : Text) : Option ConfigFormat :=
  if path.endsWith ".json" then some .json
  else if path.endsWith ".yaml" || path.endsWith ".yml" then some .markup
  else none

/-- The value in the bytes of a configuration file. -/
def ConfigFormat.decode (format : ConfigFormat) (content : Bytes) : Except ConfigFileError Held :=
  match format with
  | .markup => (Markup.read content).mapError .badMarkup
  | .json =>
    match Utf8.decode content with
    | .error e => .error (.undecodable e)
    | .ok t =>
      match Sample.read t.unifyLineEnds with
      | .error e => .error (.badJson e)
      | .ok sample => .ok (Held.ofDatum (Datum.ofSample sample))

/-- The value in a configuration file. -/
def readConfigFile {m : Type → Type} [Monad m] (host : Host m) (path : Text) :
    m (Except ConfigFileError Held) := do
  match ConfigFormat.ofPath? path with
  | none => return .error .unknownFormat
  | some format =>
    match ← host.read path with
    | .error e => return .error (.unreadable e)
    | .ok content => return format.decode content

end ClassMold
