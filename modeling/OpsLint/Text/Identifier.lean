import OpsLint.Text.Basic

/-!
# Identifiers

Names as shells and makefiles have them: an ASCII letter or an underscore, then letters, underscores
and digits. A **key** may also hold points and hyphens after its first character.
-/

namespace OpsLint.Text

/-- A character that can begin an identifier. -/
def isIdentStart (c : Char) : Bool := c.isAlpha || c = '_'

/-- A character that can continue an identifier. -/
def isIdentChar (c : Char) : Bool := c.isAlphanum || c = '_'

/-- A character that can continue a key. -/
def isKeyChar (c : Char) : Bool := isIdentChar c || c = '.' || c = '-'

/-- An identifier. -/
def isIdentifier : Text → Bool
  | [] => false
  | c :: s => isIdentStart c && s.all isIdentChar

/-- A key. -/
def isKey : Text → Bool
  | [] => false
  | c :: s => isIdentStart c && s.all isKeyChar

/-- The identifier that a text begins with, and what follows it. -/
def takeIdentifier? : Text → Option (Text × Text)
  | [] => none
  | c :: s =>
    if isIdentStart c then some (c :: s.takeWhile isIdentChar, s.dropWhile isIdentChar) else none

/-- The key that a text begins with, and what follows it. -/
def takeKey? : Text → Option (Text × Text)
  | [] => none
  | c :: s =>
    if isIdentStart c then some (c :: s.takeWhile isKeyChar, s.dropWhile isKeyChar) else none

/-- The text begins with an identifier and an equals sign, blanks between them allowed. -/
def beginsAssignment (s : Text) : Bool :=
  match takeIdentifier? s with
  | some (_, rest) => (trimLeft rest).head? = some '='
  | none => false

end OpsLint.Text
