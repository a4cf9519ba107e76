import OpsLint.Crontab.Basic
import OpsLint.FileKind
import OpsLint.Files.Path
import OpsLint.Text.Glob
import OpsLint.Text.Lines

/-!
# Detecting the kind of a file

A file is known by its name: by the whole name or else by the first pattern that it matches. If the
name says nothing, the content may still show a crontab (`looksLikeCrontab`); its first meaningful
line has to be an entry as far as one can tell from its words.
-/

namespace OpsLint

/-- Names that fix the kind of a file. -/
def exactNames : List (Text × FileKind) :=
  [("Dockerfile", .dockerfile), ("Containerfile", .dockerfile), ("Makefile", .makefile),
   ("makefile", .makefile), ("GNUmakefile", .makefile), (".env", .env), ("crontab", .crontab)]

/-- Patterns of names that fix the kind of a file. -/
def namePatterns : List (Text × FileKind) :=
  [("Dockerfile.*", .dockerfile), ("*.Dockerfile", .dockerfile), ("*.dockerfile", .dockerfile),
   ("*.Makefile", .makefile), ("*.mk", .makefile), (".env.*", .env), ("*.env", .env),
   ("*.service", .systemd), ("*.timer", .systemd), ("*.socket", .systemd), ("*.cron", .crontab)]

/-- The kind of a file of a given name. -/
def kindOfName? (name : Text) : Option FileKind :=
  match exactNames.lookup name with
  | some kind => some kind
  | none => (namePatterns.find? fun (pattern, _) => Glob.isMatch pattern name).map (·.2)

/-- The kind of a file by its path alone. -/
def Path.kind? (p : Path) : Option FileKind := kindOfName? p.fileName

namespace Crontab

/-- The words of a line begin like an entry of a crontab: with a nickname or five fields, and
something after them. -/
def beginsEntry (words : List Text) : Bool :=
  match words with
  | [] => false
  | first :: _ =>
    if first.head? = some '@' then
      (nicknames.lookup (Text.lower first)).isSome && 1 < words.length
    else 5 < words.length && (words.take 5).all isScheduleField

/-- The first meaningful line of a text begins like an entry of a crontab. -/
def looksLikeCrontab (content : Text) : Bool :=
  match ((Text.lines content).map Text.trim).find? (!isIgnored ·) with
  | some body => beginsEntry (Text.words body)
  | none => false

end Crontab

/-- The kind of a file by its path, and by its content if the path does not tell. -/
def detect? (p : Path) (content : Option Text) : Option FileKind :=
  match p.kind? with
  | some kind => some kind
  | none => if content.any Crontab.looksLikeCrontab then some .crontab else none

end OpsLint
