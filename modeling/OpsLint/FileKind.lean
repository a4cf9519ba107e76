import OpsLint.Text.Basic

/-!
# Kinds of files

The five formats that are read and checked. A file of none of these kinds is `none : Option
FileKind`; it is neither read nor reported.
-/

namespace OpsLint

/-- A format of configuration files. -/
inductive FileKind where
  | dockerfile
  | makefile
  | env
  | crontab
  | systemd
deriving DecidableEq, Repr

namespace FileKind

/-- All kinds, in the order in which they are listed. -/
def all : List FileKind := [.dockerfile, .makefile, .env, .crontab, .systemd]

/-- The word for a kind, which is also the name of its section in the settings. -/
def name : FileKind → Text
  | .dockerfile => "dockerfile"
  | .makefile => "makefile"
  | .env => "env"
  | .crontab => "crontab"
  | .systemd => "systemd"

/-- The kind of a given name. -/
def ofName? (s : Text) : Option FileKind := all.find? (·.name = s)

/-- The word for a kind that may be unknown. -/
def nameOrUnknown (kind : Option FileKind) : Text :=
  match kind with
  | some k => k.name
  | none => "unknown"

end FileKind

end OpsLint
