import OpsLint.Text.Identifier
import OpsLint.Text.Word

/-!
# Lines of a makefile

What a complete line of a makefile, continuations joined, is: part of a conditional, the start of a
multi-line definition, an assignment or another directive, or a rule. Only rules have a content that
matters further on (`RuleLine`): names before one or two colons, then prerequisites and, after a
semicolon, a first recipe line.
-/

namespace OpsLint.Makefile

/-- A text begins with one of some keywords, as a whole word. -/
def beginsKeyword (keywords : List Text) (s : Text) : Bool :=
  keywords.any fun keyword => (Text.dropStart? keyword s).any Text.endsWord

/-- A line of a conditional. -/
def isConditional (s : Text) : Bool :=
  beginsKeyword ["ifeq", "ifneq", "ifdef", "ifndef", "else", "endif"] s

/-- A line that includes other files or declares variables or search paths. -/
def isDirective (s : Text) : Bool :=
  beginsKeyword ["-include", "include", "sinclude", "vpath", "export", "unexport", "undefine"] s

/-- What follows a modifier of an assignment or definition and the blanks after it. -/
def afterModifier? (s : Text) : Option Text :=
  [("export" : Text), "override"].findSome? fun modifier =>
    match Text.dropStart? modifier s with
    | some (c :: rest) => if Text.isBlank c then some (Text.trimLeft rest) else none
    | _ => none

/-- A text, and what is left of it after one modifier, two modifiers and so on, `n` at most. -/
def afterModifiers : Nat → Text → List Text
  | 0, s => [s]
  | n + 1, s => s :: (match afterModifier? s with
      | some rest => afterModifiers n rest
      | none => [])

/-- A text begins, after any number of modifiers, in a certain way. -/
def beginsModified (test : Text → Bool) (s : Text) : Bool := (afterModifiers s.length s).any test

/-- The start of a multi-line definition. -/
def isDefine (s : Text) : Bool := beginsModified (beginsKeyword ["define"]) s

/-- A character of the name of a variable that is assigned to. -/
def isVariableChar (c : Char) : Bool := Text.isKeyChar c

/-- The operators of assignments. -/
def assignmentOperators : List Text := [":::=", "::=", ":=", "?=", "+=", "!=", "="]

/-- A text begins with a name and the operator of an assignment. -/
def beginsOperator (s : Text) : Bool :=
  !(s.takeWhile isVariableChar).isEmpty &&
    assignmentOperators.any (Text.startsWith (Text.trimLeft (s.dropWhile isVariableChar)) ·)

/-- An assignment. -/
def isAssignment (s : Text) : Bool := beginsModified beginsOperator s

/-! ## Rules -/

/-- A line that starts a rule. -/
structure RuleLine where
  names : List Text
  doubleColon : Bool
  prerequisites : List Text
  /-- The prerequisites hold an equals sign: a variable is assigned for the targets only. -/
  assigns : Bool
  /-- What follows a semicolon, and how many characters of the line are before it. -/
  inline : Option (Text × Nat)
deriving DecidableEq, Repr

/-- A character that ends the names of a rule. -/
def endsNames (c : Char) : Bool := c = ':' || c = '=' || c = '#'

/-- The names, whether two colons follow, and the rest of a rule. -/
def splitRule? (text : Text) : Option (Text × Bool × Text) :=
  let names := text.takeWhile (!endsNames ·)
  match names, text.dropWhile (!endsNames ·) with
  | first :: _, ':' :: rest =>
    if Text.isBlank first then none
    else match rest with
      | ':' :: rest => some (names, true, rest)
      | rest => some (names, false, rest)
  | _, _ => none

/-- Reads a line that starts a rule. -/
def ruleLine? (text : Text) : Option RuleLine :=
  (splitRule? text).map fun (names, doubleColon, rest) =>
    let inline := Text.cut? ';' rest
    let needs := Text.before '#' ((inline.map (·.1)).getD rest)
    { names := Text.words names
      doubleColon
      prerequisites := (Text.words needs).filter (· ≠ ['|'])
      assigns := needs.contains '='
      inline := inline.map fun (_, recipe) => (recipe, (Text.before ';' text).length + 1) }

/-- A name such as `.PHONY` that gives a meaning to its prerequisites. -/
def isSpecialName : Text → Bool
  | '.' :: s => !s.isEmpty && s.all fun c => c.isUpper || c = '_'
  | _ => false

end OpsLint.Makefile
