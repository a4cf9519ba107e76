import OpsLint.Files.Tree
import OpsLint.Settings.Resolve
import OpsLint.Text.Utf8
import OpsLint.Yaml.Schema

/-!
# Settings files

Settings are read from a YAML file. If none is named it is looked for, in a directory and then in
those above it, under several names; the first that is there counts. A run without one has the
default settings.

A file that means nothing, such as an empty one, is as good as an empty mapping.
-/

namespace OpsLint

/-- The names under which a settings file is looked for, in order of preference. -/
def settingsFileNames : List Text :=
  [".infralint.yaml", ".infralint.yml", "infralint.yaml", "infralint.yml"]

/-- Why settings could not be loaded. -/
inductive SettingsFileError where
  /-- The file that was named does not exist. -/
  | notFound (path : Path)
  | unreadable (path : Path)
  /-- The bytes of the file are no text. -/
  | notText
  /-- The text of the file is not well-formed. -/
  | malformed (path : Path)
  /-- A scalar in the file has no value. -/
  | badScalar (error : Yaml.Error)
  | notMapping (path : Path)
  | settings (error : SettingsError)
deriving DecidableEq

/-- The wording of an error. -/
def SettingsFileError.message : SettingsFileError → Text
  | .notFound path => "Config file not found: " ++ path.toText
  | .unreadable path => "Cannot read config file " ++ path.toText
  | .notText => "Config file is not valid UTF-8"
  | .malformed path => "Cannot read config file " ++ path.toText
  | .badScalar error => error.message
  | .notMapping path => "Config file " ++ path.toText ++ " must contain a mapping at the top level"
  | .settings error => error.message

/-- The directories on the way from a directory to the root, itself first. -/
def Path.ancestors (p : Path) : List Path :=
  (List.range (p.names.length + 1)).map fun above =>
    { p with names := p.names.take (p.names.length - above) }

namespace FileTree

/-- The settings file for a directory, if there is one. -/
def findSettings? (t : FileTree) (dir : Path) : Option Path :=
  ((t.resolve dir).ancestors.flatMap fun d => settingsFileNames.map d.child).find? t.isFile

/-- The settings file to use: the one that is named, or else the one for a directory. -/
def settingsFile (t : FileTree) (named : Option Path) (dir : Path) :
    Except SettingsFileError (Option Path) :=
  match named with
  | none => .ok (t.findSettings? dir)
  | some p => if t.isFile (t.resolve p) then .ok (some (t.resolve p)) else .error (.notFound p)

/-- The value of a settings file. -/
def readSettings (t : FileTree) (p : Path) : Except SettingsFileError Value := do
  let bytes ← match t.get? p with
    | some (.file bytes none) => pure bytes
    | _ => throw (.unreadable p)
  match Utf8.decode? bytes with
  | none => throw .notText
  | some text =>
    match Yaml.read text with
    | .error .malformed => throw (.malformed p)
    | .error e => throw (.badScalar e)
    | .ok value =>
      match if value.isEmpty then .map [] else value with
      | .map entries => return .map entries
      | _ => throw (.notMapping p)

/-- Settings, and where they come from. -/
structure Loaded where
  found : Option Path
  settings : Settings
  warnings : List ConfigWarning

/-- Loads the settings for a run. -/
def loadSettings (t : FileTree) (registry : Registry) (named : Option Path) (dir : Path)
    (overrides : Overrides) : Except SettingsFileError Loaded := do
  let found ← t.settingsFile named dir
  let value ← match found with
    | some p => t.readSettings p
    | none => pure (.map [])
  let source := (found.map Path.toText).getD defaultSource
  let (settings, warnings) ← (resolveSettings registry value overrides source).mapError .settings
  return { found, settings, warnings }

end FileTree

end OpsLint
