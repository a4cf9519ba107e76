import OpsLint.Decimal.Layout
import OpsLint.Env.Basic
import OpsLint.Repeats
import OpsLint.Text.Case
import OpsLint.Text.Glob
import OpsLint.Text.Numeral

/-!
# Rules for environment files

Secrets must not be easy to guess (`weakValues`), a key should be assigned once (`duplicateKeys`)
and nothing should stand between a key, its equals sign and its value (`spacing`).

A key is that of a **secret** if it contains one of the marker words. Its value is exempt if it only
refers to another variable or matches an allowed pattern. Otherwise it is weak (`weakness`) if it is
empty, on the list of common passwords, too short, or of too little **entropy**: the bits per
character that a text carries when each character occurs as often as it does in the text.
-/

namespace OpsLint.Env

/-- What can be set about environment files. -/
structure Options where
  /-- Look at the values of secrets at all. -/
  checkWeakPasswords : Bool := true
  /-- Patterns of values that are exempt. -/
  allowedWeakPatterns : List Text := []
  /-- Values that are always weak, in any letter case. -/
  weakValues : List Text :=
    ["admin", "123456", "12345678", "123456789", "qwerty", "password", "password1", "letmein",
     "changeme", "secret", "root", "toor", "test", "default", "welcome", "111111", "abc123", "pass",
     "guest"]
  /-- Words within a key, in any letter case, that mark a secret. -/
  secretKeyMarkers : List Text := ["password", "secret", "token"]
  /-- The least length of a secret. -/
  minSecretLength : Nat := 8
  /-- The least entropy of a secret, in bits per character. -/
  minSecretEntropy : Float := 2.5

/-! ## Weak values -/

/-- The entropy of a text in bits per character. The terms are added in the order in which the
characters first occur. -/
def entropy (value : Text) : Float :=
  if value.isEmpty then 0
  else
    let term (c : Char) : Float :=
      let share := Float.ofNat (value.count c) / Float.ofNat value.length
      share * share.log2
    Float.neg (value.eraseDups.foldl (fun sum c => sum + term c) 0)

/-- Why a value is weak. -/
inductive Weakness where
  | empty
  | common
  | short (least : Nat)
  | lowEntropy (entropy least : Float)

/-- The wording of a weakness. -/
def Weakness.message : Weakness → Except Numeral.Error Text
  | .empty => .ok "value is empty"
  | .common => .ok "value is a commonly used password"
  | .short least => do
    return "value is shorter than " ++ (← Numeral.write least) ++ " characters"
  | .lowEntropy entropy least =>
    .ok ("value entropy " ++ Decimal.fixedText 2 entropy ++ " bits/char is below " ++
      Decimal.shortestText least)

/-- Why a value is weak, given the common values in small letters, if it is. -/
def weakness? (value : Text) (common : List Text) (minLength : Nat) (minEntropy : Float) :
    Option Weakness :=
  if value.isEmpty then some .empty
  else if common.contains (Text.lower value) then some .common
  else if value.length < minLength then some (.short minLength)
  else if entropy value < minEntropy then some (.lowEntropy (entropy value) minEntropy)
  else none

/-- The value is a reference to a variable, `$NAME`, with or without braces. -/
def isReference (value : Text) : Bool :=
  match value with
  | '$' :: s =>
    let s := (Text.dropStart? ['\x7b'] s).getD s
    match Text.takeIdentifier? s with
    | some (_, rest) => rest.isEmpty || rest = ['\x7d']
    | none => false
  | _ => false

/-- The key is that of a secret. -/
def Options.marksSecret (options : Options) (key : Text) : Bool :=
  (options.secretKeyMarkers.map Text.lower).any fun marker => Text.hasInfix marker (Text.lower key)

/-- The value is not looked at. -/
def Options.exempts (options : Options) (value : Text) : Bool :=
  isReference value || options.allowedWeakPatterns.any fun pattern => Glob.isMatch pattern value

/-- Why the value of an assignment is weak, if it is the value of a secret and weak. -/
def Options.weakness? (options : Options) (a : Assignment) : Option Weakness :=
  if options.marksSecret a.key && !options.exempts a.value then
    Env.weakness? a.value (options.weakValues.map Text.lower) options.minSecretLength
      options.minSecretEntropy
  else none

/-- The finding about a weak value. -/
def weakFinding (a : Assignment) (w : Weakness) : Except Numeral.Error Finding := do
  return { line := a.line, message := "Weak value for '" ++ a.key ++ "': " ++ (← w.message) }

/-- Secrets with weak values. -/
def weakValues (options : Options) (e : Env) : Except Numeral.Error (List Finding) :=
  if options.checkWeakPasswords then
    (e.assignments.filterMap fun a => (options.weakness? a).map fun w => (a, w)).mapM fun (a, w) =>
      weakFinding a w
  else .ok []

/-! ## Keys and spacing -/

/-- Assignments of keys that have been assigned before. -/
def duplicateKeys (e : Env) : List Finding :=
  (repeats Assignment.key e.assignments).map fun (a, first) =>
    { line := a.line
      message := "Key '" ++ a.key ++ "' is already defined on line " ++ Text.ofNat first.line }

/-- Assignments with blanks around the equals sign. -/
def spacing (e : Env) : List Finding :=
  (e.assignments.filter Assignment.hasSpacing).map fun a =>
    { line := a.line
      column := a.equalsColumn
      message := "Whitespace around '=' in assignment to '" ++ a.key ++ "'" }

end OpsLint.Env
