import TriplesSql.Files
import TriplesSql.Settings.Toml

namespace TriplesSql.Settings

inductive LoadError where
  | notFound (path : String)
  | unreadable (reason : String)
  | text (e : TextError)
  deriving DecidableEq, Repr

def LoadError.message : LoadError → String
  | .notFound path => "Config file not found: " ++ path
  | .unreadable reason => "Failed to read config file: " ++ reason
  | .text .malformed => "Failed to parse config file: no settings document"
  | .text (.unusable e) => "Invalid configuration: " ++ e.message

structure Places where
  namedFile? : Option String
  userDirectory? : Option String

def localFile : String := "r2rml-unfold.toml"

def userFile (directory : String) : String := directory ++ "/r2rml-unfold/config.toml"

def loadFile (files : String → Entry) (path : String) : Except LoadError Settings :=
  if !(files path).isPresent then .error (.notFound path)
  else
    match (files path).read with
    | .error reason => .error (.unreadable reason)
    | .ok s => (ofText s).mapError .text

/-- Loads the settings from the usual places: the file that the environment names, the one in the
working directory, the one of the user, and the defaults. -/
def load (files : String → Entry) (places : Places) : Except LoadError Settings :=
  match places.namedFile? with
  | some path => loadFile files path
  | none =>
    let usual := localFile :: (places.userDirectory?.map userFile).toList
    match usual.find? fun path => (files path).isPresent with
    | some path => loadFile files path
    | none => .ok {}

end TriplesSql.Settings
