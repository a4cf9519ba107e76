import OpsLint.Text.Basic
import OpsLint.Text.Word

/-!
# Files that a recipe line writes

Whether a recipe line seems to write a file of a given name. It does if it mentions the automatic
variable for the target, or if the name comes after something that announces an output: the option
`-o`, a redirection, `touch` and other names, `mkdir` and options, or `cp`, `mv` or `ln` and other
words. The name may be quoted and may begin with `./`, and has to end where a word of a shell ends.

An announcement can be read in several ways: it is not clear how many words belong to it.
`outputsAt` therefore yields **all** the places at which the name could stand, and one of them has
to do.
-/

namespace OpsLint.Makefile

/-- The rests of a text after each number of the blanks it begins with, none included. -/
def afterSomeBlanks : Text → List Text
  | [] => [[]]
  | c :: s => (c :: s) :: (if Text.isBlank c then afterSomeBlanks s else [])

/-- The rests of a text after each of its blanks up to, and including, the first line feed. -/
def afterBlanksInLine : Text → List Text
  | [] => []
  | c :: s =>
    (if Text.isBlank c then [s] else []) ++ (if c = '\n' then [] else afterBlanksInLine s)

/-- The rests of a text after each of its blanks. -/
def afterBlanks : Text → List Text
  | [] => []
  | c :: s => (if Text.isBlank c then [s] else []) ++ afterBlanks s

/-- The rests of a text that begins with a blank, after blanks and any number of options, `n` at
most. -/
def afterOptions : Nat → Text → List Text
  | 0, _ => []
  | n + 1, s =>
    match s with
    | [] => []
    | c :: s =>
      if Text.isBlank c then
        afterSomeBlanks s ++
          (match Text.trimLeft s with
          | '-' :: d :: rest =>
            if Text.isBlank d then [] else afterOptions n (rest.dropWhile (!Text.isBlank ·))
          | _ => [])
      else []

/-- The rest of a text that begins with a blank. -/
def ifBlank (s : Text) (rests : Text → List Text) : List Text :=
  match s with
  | c :: _ => if Text.isBlank c then rests s else []
  | [] => []

/-- The places at which the name of an output could stand, if an output is announced at the start of
`s`. A command has to begin a word, which it does if the character before it is no word
character. -/
def outputsAt (beginsWord : Bool) (s : Text) : List Text :=
  let after (word : Text) (rests : Text → List Text) : List Text :=
    ((Text.dropStart? word s).map rests).getD []
  let afterCommand (word : Text) (rests : Text → List Text) : List Text :=
    if beginsWord then after word rests else []
  let copied (rest : Text) : List Text := ifBlank rest fun rest => afterBlanksInLine (rest.drop 1)
  after "-o" afterSomeBlanks ++ after ">" afterSomeBlanks ++ after ">>" afterSomeBlanks ++
    afterCommand "touch" (fun rest => ifBlank rest afterBlanks) ++
    afterCommand "mkdir" (fun rest => ifBlank rest (afterOptions rest.length)) ++
    afterCommand "cp" copied ++ afterCommand "mv" copied ++ afterCommand "ln" copied

/-- A text and, if it begins with a quotation mark, what follows that. -/
def quoteOptional (s : Text) : List Text :=
  match s with
  | c :: rest => if c = '\'' || c = '"' then [s, rest] else [s]
  | [] => [s]

/-- A word of a shell ends here. -/
def endsShellWord : Text → Bool
  | [] => true
  | c :: _ => Text.isBlank c || c = ';' || c = '&' || c = '|'

/-- The name of an output stands at the start of a text. -/
def beginsOutput (name s : Text) : Bool :=
  let starts := (quoteOptional s).flatMap fun t => t :: (Text.dropStart? "./" t).toList
  let ends := (starts.filterMap (Text.dropStart? name)).flatMap quoteOptional
  ends.any endsShellWord

/-- An output of the name is announced in a text, of which `last` is the character before. -/
def announcesOutput (name : Text) (last : Option Char) : Text → Bool
  | [] => false
  | c :: s =>
    (outputsAt (!last.any Text.isWordChar) (c :: s)).any (beginsOutput name) ||
      announcesOutput name (some c) s

/-- A recipe line seems to write a file of the name. -/
def writesFile (name recipe : Text) : Bool :=
  Text.hasInfix "$@" recipe || Text.hasInfix "$(@" recipe || announcesOutput name none recipe

end OpsLint.Makefile
