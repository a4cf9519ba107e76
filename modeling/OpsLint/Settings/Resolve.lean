import OpsLint.Rule.Registry
import OpsLint.Settings.Validate
import OpsLint.Text.Case

/-!
# Resolving settings

Settings come from three places: what is built in, a settings file on top of it, and the
**overrides** of a run on top of both. A file is a mapping with a section for each kind of file. In
a section stand the options, and the settings of rules either directly or under `rules`; of two
settings for one rule the later one counts.

Keys that are not known are passed over with a **notice** each, in the order of the file, and have
no other effect. A known key with a value of a shape that makes no sense stops the resolution
(`SettingsError`), and so does any value that does not suit its option.

The file is first made into a draft (`Draft.ofValue`), then changed by the overrides
(`Overrides.apply`), and only the outcome is validated. So an override can replace a value that
would not have been valid.
-/

namespace OpsLint

/-! ## Notices and errors -/

/-- A key that was passed over. -/
inductive Notice where
  | unknownSection (key : Text)
  | unknownOption (key name : Text)
  | unknownRule (id name : Text)
  | unknownRuleKey (key rule name : Text)
  | unknownOverrideRule (id : Text)
  | unknownOverrideSection (key : Text)
deriving DecidableEq, Repr

/-- How a section is referred to. -/
def sectionPhrase (name : Text) : Text := "section '" ++ name ++ "'"

/-- The wording of a notice. -/
def Notice.message : Notice → Text
  | .unknownSection key => "Unknown configuration section '" ++ key ++ "'"
  | .unknownOption key name => "Unknown option '" ++ key ++ "' in " ++ sectionPhrase name
  | .unknownRule id name => "Unknown rule id '" ++ id ++ "' in " ++ sectionPhrase name
  | .unknownRuleKey key rule name =>
    "Unknown key '" ++ key ++ "' for rule '" ++ rule ++ "' in " ++ sectionPhrase name
  | .unknownOverrideRule id => "Unknown rule id '" ++ id ++ "' in command-line override"
  | .unknownOverrideSection key =>
    "Unknown configuration section '" ++ key ++ "' in command-line override"

/-- A notice and the place it is about. -/
structure ConfigWarning where
  notice : Notice
  source : Text
deriving DecidableEq, Repr

/-- A warning as a diagnostic. -/
def ConfigWarning.diagnostic (w : ConfigWarning) : Diagnostic :=
  .aboutFile .warning w.source "config-warning" w.notice.message

/-- The place of settings that come from no file. -/
def defaultSource : Text := "<config>"

/-- The place of overrides. -/
def overrideSource : Text := "<command line>"

/-- Why there are no settings. -/
inductive SettingsError where
  | notMapping
  | sectionNotMapping (name typeName : Text)
  | rulesNotMapping (name : Text)
  | badRule (id name value : Text)
  /-- Some values do not suit their options. -/
  | invalid (source : Text) (issues : List Issue)
  /-- A number in a message is too long to be written. -/
  | numeral (error : Numeral.Error)
deriving DecidableEq

/-- The wording of an error. -/
def SettingsError.message : SettingsError → Text
  | .notMapping => "Configuration must be a mapping"
  | .sectionNotMapping name typeName =>
    "Section '" ++ name ++ "' must be a mapping, got " ++ typeName
  | .rulesNotMapping name => "'rules' in " ++ sectionPhrase name ++ " must be a mapping"
  | .badRule id name value =>
    "Invalid setting for rule '" ++ id ++ "' in " ++ sectionPhrase name ++ ": " ++ value
  | .invalid source _ => "Invalid configuration in " ++ source
  | .numeral error => error.message

/-! ## Reading a file -/

/-- A draft, and the notices on the way to it. -/
structure Noted (α : Type) where
  value : α
  notices : List Notice := []

namespace Noted

variable {α : Type}

/-- Adds a notice. -/
def note (acc : Noted α) (notice : Notice) : Noted α :=
  { acc with notices := acc.notices ++ [notice] }

/-- Changes the draft. -/
def change (acc : Noted α) (f : α → α) : Noted α := { acc with value := f acc.value }

end Noted

/-- The text that a key is. -/
def Value.toText? : Value → Option Text
  | .str s => some s
  | _ => none

/-- A key as it is shown in a notice. -/
def Value.keyText (key : Value) : Except SettingsError Text := key.plain.mapError .numeral

/-- The words that disable a rule. -/
def disableWords : List Text := ["off", "disable", "disabled", "false", "no"]

/-- The words that enable a rule. -/
def enableWords : List Text := ["on", "enable", "enabled", "true", "yes"]

/-- The word for a severity in the form in which it is compared. -/
def severityWord : Value → Value
  | .str s => .str (Text.capitals (Text.trim s))
  | v => v

/-- One entry of a mapping given for a rule. -/
def RuleDraft.addEntry (id name : Text) (acc : Noted RuleDraft) (entry : Value × Value) :
    Except SettingsError (Noted RuleDraft) := do
  let (key, value) := entry
  if key.toText? = some ("severity" : Text) then
    return acc.change fun rule => { rule with severity := some (severityWord value) }
  else if key.toText? = some ("enabled" : Text) then
    return acc.change fun rule => { rule with enabled := some value }
  else
    return acc.note (.unknownRuleKey (← key.keyText) id name)

/-- What is given for a rule: a truth value, a word that enables or disables it, a severity, or a
mapping of both. -/
def RuleDraft.ofValue (id name : Text) (value : Value) :
    Except SettingsError (Noted RuleDraft) :=
  match value with
  | .bool b => .ok { value := { enabled := some (.bool b) } }
  | .str s =>
    let word := Text.lower (Text.trim s)
    if disableWords.contains word then .ok { value := { enabled := some (.bool false) } }
    else if enableWords.contains word then .ok { value := { enabled := some (.bool true) } }
    else .ok { value := { severity := some (severityWord value) } }
  | .map entries => entries.foldlM (RuleDraft.addEntry id name) { value := {} }
  | v => do
    throw (.badRule id name (← v.quoted.mapError .numeral))

namespace SectionDraft

/-- Takes up what is given for a rule. -/
def addRule (id name : Text) (acc : Noted SectionDraft) (value : Value) :
    Except SettingsError (Noted SectionDraft) := do
  let rule ← RuleDraft.ofValue id name value
  return { value := acc.value.putRule id rule.value, notices := acc.notices ++ rule.notices }

/-- One entry of the mapping under `rules`. -/
def addListedRule (ids : List Text) (name : Text) (acc : Noted SectionDraft)
    (entry : Value × Value) : Except SettingsError (Noted SectionDraft) :=
  let (key, value) := entry
  match key.toText?.filter ids.contains with
  | some id => addRule id name acc value
  | none => do
    return acc.note (.unknownRule (← key.keyText) name)

/-- One entry of a section. -/
def addEntry (ids : List Text) (kind : FileKind) (acc : Noted SectionDraft)
    (entry : Value × Value) : Except SettingsError (Noted SectionDraft) :=
  let (key, value) := entry
  if key.toText? = some ("rules" : Text) then
    match value with
    | .null => .ok acc
    | .map entries => entries.foldlM (addListedRule ids kind.name) acc
    | _ => .error (.rulesNotMapping kind.name)
  else match key.toText?.filter ids.contains with
    | some id => addRule id kind.name acc value
    | none =>
      match key.toText?.filter kind.optionNames.contains with
      | some option => .ok (acc.change (·.putOption option value))
      | none => do
        return acc.note (.unknownOption (← key.keyText) kind.name)

/-- The draft of a section; `ids` are the rules for its kind of file. -/
def ofValue (ids : List Text) (kind : FileKind) (value : Value) :
    Except SettingsError (Noted SectionDraft) :=
  match value with
  | .null => .ok { value := {} }
  | .map entries => entries.foldlM (addEntry ids kind) { value := {} }
  | v => .error (.sectionNotMapping kind.name v.typeName)

end SectionDraft

namespace Draft

/-- One entry of a settings file. -/
def addEntry (registry : Registry) (acc : Noted Draft) (entry : Value × Value) :
    Except SettingsError (Noted Draft) :=
  let (key, value) := entry
  match key.toText?.filter runKeys.contains with
  | some name => .ok (acc.change (·.putRun name value))
  | none =>
    match key.toText?.bind FileKind.ofName? with
    | some kind => do
      let part ← SectionDraft.ofValue (registry.idsFor kind) kind value
      return {
        value := acc.value.putSection kind part.value
        notices := acc.notices ++ part.notices }
    | none => do
      return acc.note (.unknownSection (← key.keyText))

/-- The draft of a settings file; no value at all is an empty file. -/
def ofValue (registry : Registry) (value : Value) : Except SettingsError (Noted Draft) :=
  match value with
  | .null => .ok { value := {} }
  | .map entries => entries.foldlM (addEntry registry) { value := {} }
  | _ => .error .notMapping

end Draft

/-! ## Overrides -/

/-- What is set for one run. -/
structure Overrides where
  /-- Severities of rules. -/
  severities : List (Text × Value) := []
  disable : List Text := []
  enable : List Text := []
  /-- Options, section by section. -/
  options : List (Text × List (Text × Value)) := []
  workers : Option Value := none
  timeout : Option Value := none
  maxFileSize : Option Value := none

namespace Overrides

/-- Changes what is given for a rule, if there is such a rule. -/
def changeRule (registry : Registry) (f : RuleDraft → RuleDraft) (acc : Noted Draft)
    (id : Text) : Noted Draft :=
  match registry.get? id with
  | none => acc.note (.unknownOverrideRule id)
  | some rule => acc.change (·.modifySection rule.kind (·.modifyRule id f))

/-- Enables or disables rules, in order of their identifiers. -/
def switchRules (registry : Registry) (enabled : Bool) (ids : List Text) (acc : Noted Draft) :
    Noted Draft :=
  (Text.sortedSet ids).foldl
    (changeRule registry fun r => { r with enabled := some (.bool enabled) }) acc

/-- The severity of a rule. -/
def addSeverity (registry : Registry) (acc : Noted Draft) (entry : Text × Value) : Noted Draft :=
  changeRule registry (fun r => { r with severity := some (severityWord entry.2) }) acc entry.1

/-- One option of a section. -/
def addOption (kind : FileKind) (acc : Noted Draft) (entry : Text × Value) : Noted Draft :=
  let (name, value) := entry
  if kind.optionNames.contains name then acc.change (·.modifySection kind (·.putOption name value))
  else acc.note (.unknownOption name kind.name)

/-- The options of one section. -/
def addSection (acc : Noted Draft) (entry : Text × List (Text × Value)) : Noted Draft :=
  match FileKind.ofName? entry.1 with
  | none => acc.note (.unknownOverrideSection entry.1)
  | some kind => entry.2.foldl (addOption kind) acc

/-- A value that concerns the run as a whole. -/
def addRun (key : Text) (value : Option Value) (d : Draft) : Draft :=
  match value with
  | none | some .null => d
  | some v => d.putRun key v

/-- Applies overrides to a draft: rules are disabled, then enabled; then come severities, options
and the values that concern the run as a whole. -/
def apply (o : Overrides) (registry : Registry) (d : Draft) : Noted Draft :=
  let disabled := switchRules registry false o.disable { value := d }
  let enabled := switchRules registry true o.enable disabled
  let graded := o.severities.foldl (addSeverity registry) enabled
  let optioned := o.options.foldl addSection graded
  optioned.change fun d =>
    addRun "max_file_size" o.maxFileSize
      (addRun "timeout" o.timeout (addRun "workers" o.workers d))

end Overrides

/-- The settings of a file and overrides, with the warnings about them. -/
def resolveSettings (registry : Registry) (value : Value) (overrides : Overrides)
    (source : Text) : Except SettingsError (Settings × List ConfigWarning) := do
  let file ← Draft.ofValue registry value
  let overridden := overrides.apply registry file.value
  match overridden.value.validate with
  | .error issues => throw (.invalid source issues)
  | .ok settings =>
    return (settings, file.notices.map ({ notice := ·, source }) ++
      overridden.notices.map ({ notice := ·, source := overrideSource }))

end OpsLint
