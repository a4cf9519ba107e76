import OpsLint.Makefile.Basic
import OpsLint.Makefile.Output
import OpsLint.Repeats

/-!
# Rules for makefiles

A target that does not stand for a file should be declared phony (`missingPhony`), a target should
be defined once (`duplicateTargets`), and variables in a command that removes files should be quoted
(`unquotedVariables`).
-/

namespace OpsLint.Makefile

/-- What can be set about makefiles. -/
structure Options where
  /-- Ask for declarations of phony targets. -/
  requirePhony : Bool := true

/-! ## Phony targets -/

/-- A name that looks like that of a file, or is made up of others. -/
def looksLikeFile (name : Text) : Bool :=
  name.any fun c => c = '.' || c = '/' || c = '%' || c = '$'

/-- Some recipe line of some targets seems to write a file of the name. -/
def createsFile (name : Text) (targets : List Target) : Bool :=
  targets.any fun t => t.recipe.any fun step => writesFile name step.text

/-- The targets of a name. -/
def named (m : Makefile) (name : Text) : List Target := m.targets.filter (·.name = name)

/-- A name of targets that stands for no file and is not declared phony. -/
def lacksPhony (m : Makefile) (name : Text) : Bool :=
  !m.phony.contains name && !looksLikeFile name && !createsFile name (m.named name)

/-- The names of the targets, in the order of their first occurrences. -/
def targetNames (m : Makefile) : List Text := (m.targets.map Target.name).eraseDups

/-- Targets that should be declared phony, at their first occurrences. -/
def missingPhony (options : Options) (m : Makefile) : List Finding :=
  if options.requirePhony then
    (m.targetNames.filter m.lacksPhony).filterMap fun name =>
      (m.named name).head?.map fun first =>
        { line := first.line
          message := "Target '" ++ name ++ "' does not create a file; declare it in .PHONY" }
  else []

/-! ## Duplicates -/

/-- Targets that have been defined before. A target with two colons may be defined many times. -/
def duplicateTargets (m : Makefile) : List Finding :=
  (repeats Target.name (m.targets.filter (!·.doubleColon))).map fun (t, first) =>
    { line := t.line
      message := "Target '" ++ t.name ++ "' is already defined on line " ++ Text.ofNat first.line }

/-! ## Removing files -/

/-- A character after which a command can begin. -/
def precedesCommand (c : Char) : Bool :=
  Text.isBlank c || c = ';' || c = '&' || c = '|' || c = '@' || c = '(' || c = '-'

/-- A text begins with the command that removes files. -/
def beginsRemove (s : Text) : Bool :=
  ((Text.dropStart? "rm" s).bind List.head?).any Text.isBlank

/-- A text holds the command that removes files, at a place where a command can begin. -/
def removesAfter : Text → Bool
  | [] => false
  | c :: s => precedesCommand c && beginsRemove s || removesAfter s

/-- A recipe line removes files. -/
def removesFiles (recipe : Text) : Bool := beginsRemove recipe || removesAfter recipe

/-- The numbers of the lines that remove files. -/
def removingLines (m : Makefile) : List Nat :=
  m.targets.flatMap fun t => (t.recipe.filter fun step => removesFiles step.text).map (·.line)

/-- References to variables that are not quoted, on lines that remove files. -/
def unquotedVariables (m : Makefile) : List Finding :=
  (m.refs.filter fun ref => !ref.quoted && m.removingLines.contains ref.line).map fun ref =>
    { line := ref.line
      column := ref.column
      message := "Variable '$(" ++ ref.name ++ ")' is unquoted in an rm command" }

end OpsLint.Makefile
