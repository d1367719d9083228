/-
# Where a configuration comes from

The first of these files that exists is the configuration; if none does, the
default is:

1. the path given by the caller;
2. the path in the variable `DPB_CONFIG`;
3. `bundle.json` in the directory in `DPB_CONFIG_DIR`;
4. `dp-bundle/bundle.json` in the user's configuration directory.

A chosen file that cannot be used is an error.  What the machine offers,
variables and files, is an argument (`Machine`).
-/

import SharedBudget.Config
import SharedBudget.Spec.Codec

namespace SharedBudget

namespace Machine

/-- A path below a directory.  A directory without a name is the current one. -/
def joinPath (directory name : String) : String :=
  if directory.isEmpty then name
  else if directory.toList.getLast? = some '/' then directory ++ name
  else directory ++ "/" ++ name

/-- The user's home directory: the one in the variable, unless it has no name there, and
otherwise the one on record. -/
def homeOf (environment : String → Option String) (recorded : Option String) : Option String :=
  match environment "HOME" with
  | some home => if home.isEmpty then recorded else some home
  | none => recorded

/-- The directory for the configurations of all programs of the user.  A relative path in
the variable does not count. -/
def configHomeOf (environment : String → Option String) (recorded : Option String) :
    Option String :=
  let named := (environment "XDG_CONFIG_HOME").filter fun path => path.toList.head? = some '/'
  named <|> (homeOf environment recorded).map (joinPath · ".config")

end Machine

/-- The variables and files of a machine. -/
structure Machine where
  environment : String → Option String
  /-- The home directory that is on record for the user. -/
  recordedHome : Option String := none
  /-- The directory for the configurations of all programs of the user. -/
  configHome? : Option String := Machine.configHomeOf environment recordedHome
  /-- Whether a path leads to a file or a directory. -/
  pathExists : String → Bool
  /-- The content of a file, or the reason why it cannot be read. -/
  read : String → Except String Bytes

namespace Machine

/-- The text of a file. -/
def readText (m : Machine) (path : String) : Except String String := do
  match Utf8.toString? (← m.read path) with
  | some text => .ok text
  | none => .error "stream did not contain valid UTF-8"

/-- The directory for the configuration of this program. -/
def configDirectory? (m : Machine) : Option String := m.configHome?.map (joinPath · "dp-bundle")

end Machine

namespace Config

/-- Where a configuration was found. -/
inductive Source where
  | argument
  | environment
  | userDirectory
  | builtin
deriving DecidableEq, Repr

/-- The name of a source. -/
def Source.name : Source → String
  | .argument => "CLI argument"
  | .environment => "environment variable"
  | .userDirectory => "XDG config"
  | .builtin => "builtin default"

/-- The name of a configuration file. -/
def fileName : String := "bundle.json"

/-- The paths at which a configuration may be, the most important first. -/
def candidates (m : Machine) (argument : Option String) : List (String × Source) :=
  let inDirectory (directory : String) : String := Machine.joinPath directory fileName
  (argument.map fun path => (path, Source.argument)).toList ++
    ((m.environment "DPB_CONFIG").map fun path => (path, Source.environment)).toList ++
    ((m.environment "DPB_CONFIG_DIR").map fun d => (inDirectory d, Source.environment)).toList ++
    (m.configDirectory?.map fun d => (inDirectory d, Source.userDirectory)).toList

/-- The first candidate that exists. -/
def find? (m : Machine) (argument : Option String) : Option (String × Source) :=
  (candidates m argument).find? fun (path, _) => m.pathExists path

/-- The source of the configuration in use. -/
def source (m : Machine) (argument : Option String) : Source :=
  ((find? m argument).map (·.2)).getD .builtin

/-- The configuration in a file, unchecked. -/
def ofFile (m : Machine) (path : String) : Except Error Config :=
  match m.readText path with
  | .error reason => .error (.unreadable s!"Failed to read {path}: {reason}")
  | .ok text => ofJson (Utf8.ofString text)

/-- The event of a file found. -/
def loadingEvent (path : String) (source : Source) : Log.Event where
  severity := .debug
  target := "dpb_config::bundle"
  message := "Loading bundle config"
  fields := [("path", .shown path), ("source", .shown source.name)]

/-- The event of a configuration in use. -/
def loadedEvent (source : Source) (c : Config) : Log.Event where
  severity := .info
  target := "dpb_config::bundle"
  message := "Bundle config loaded"
  fields := [("source", .shown source.name), ("epsilon_threshold", .float c.threshold)]

/-- Finds, reads and checks the configuration. -/
def load (m : Machine) (argument : Option String) : Attempt Error Config := do
  let c ← match find? m argument with
    | some (path, source) => do
      Attempt.emit (loadingEvent path source)
      ExceptT.mk (pure (ofFile m path))
    | none => pure default
  ExceptT.mk (pure c.check)
  Attempt.emit (loadedEvent (source m argument) c)
  return c

end Config

/-- The specification in a file. -/
def BundleSpec.ofFile (m : Machine) (path : String) : Except Error BundleSpec :=
  match m.readText path with
  | .error reason => .error (.io reason)
  | .ok text => (BundleSpec.ofJson (Utf8.ofString text)).mapError .json

end SharedBudget
