import OpsLint.Systemd.Basic

/-!
# Rules for systemd units

A service that keeps running should say when it is restarted (`missingRestart`), a unit should be
described (`missingDescription`), and commands should be given by absolute paths
(`relativeCommands`).
-/

namespace OpsLint.Systemd

/-- What can be set about units. -/
structure Options where
  /-- Ask services for a restart policy. -/
  requireRestart : Bool := true

/-- A service section that runs on and has no restart policy. -/
def Section.lacksRestart (s : Section) : Bool :=
  (s.get? "Type").all (fun d => d.value ≠ ("oneshot" : Text)) && (s.get? "Restart").isNone

/-- Services without a restart policy. -/
def missingRestart (options : Options) (u : Systemd) : List Finding :=
  if options.requireRestart then
    ((u.named "Service").filter Section.lacksRestart).map fun s =>
      { line := s.line, message := "[Service] section has no Restart= directive" }
  else []

/-- A unit none of whose unit sections has a description. -/
def missingDescription (u : Systemd) : List Finding :=
  let units := u.named "Unit"
  if units.any fun s => (s.get? "Description").isSome then []
  else [{
    line := (units.head?.map Section.line).getD 1
    message := "Unit has no Description= in a [Unit] section" }]

/-- Keys whose values are commands. -/
def commandKeys : List Text :=
  ["ExecStart", "ExecStartPre", "ExecStartPost", "ExecReload", "ExecStop", "ExecStopPost",
   "ExecCondition"]

/-- A mark before a command that says how it is run. -/
def isCommandMark (c : Char) : Bool :=
  c = '@' || c = '-' || c = ':' || c = '+' || c = '!'

/-- The executable of a command, without the marks before it. -/
def executable (command : Text) : Text := (Text.firstWord (command.dropWhile isCommandMark)).1

/-- The finding about a directive, if its value is a command with a relative path. -/
def relativeCommand? (d : Directive) : Option Finding :=
  let program := executable d.value
  if commandKeys.contains d.key && !program.isEmpty && program.head? ≠ some '/' then
    some {
      line := d.line
      message := d.key ++ "= uses a relative executable '" ++ program ++ "'" }
  else none

/-- Commands given by relative paths. -/
def relativeCommands (u : Systemd) : List Finding :=
  (u.sections.flatMap Section.directives).filterMap relativeCommand?

end OpsLint.Systemd
