import OpsLint.Text.Basic

/-!
# Values of environment files

What stands after the equals sign is a quoted value or a bare one, with an optional comment. A
quoted value ends at its closing quote (`closingQuote?`): between double quotes a backslash takes
the meaning from the character after it, between single quotes nothing does. A bare value ends
before the first blank that leads to a number sign.

`unquote` gives the value meant. It keeps the backslashes of a quoted value as they are.
-/

namespace OpsLint.Env

/-- A quotation mark. -/
def isQuote (c : Char) : Bool := c = '\'' || c = '"'

/-- The position of the closing quote in what follows an opening one. In a double-quoted value
`escaped` says that the character before was a backslash that counts. -/
def closingFrom (quote : Char) (escaped : Bool) : Text → Option Nat
  | [] => none
  | c :: s =>
    if escaped then (closingFrom quote false s).map (· + 1)
    else if c = '\\' && quote = '"' then (closingFrom quote true s).map (· + 1)
    else if c = quote then some 0
    else (closingFrom quote false s).map (· + 1)

/-- The position in a text of the quote that closes the one it begins with. -/
def closingQuote? : Text → Option Nat
  | [] => none
  | quote :: s => (closingFrom quote false s).map (· + 1)

/-- A text up to the first blanks that lead to a number sign. -/
def beforeComment : Text → Text
  | [] => []
  | c :: s =>
    if Text.isBlank c && (Text.trimLeft s).head? = some '#' then [] else c :: beforeComment s

/-- A trimmed value begins with a quotation mark. -/
def beginsQuoted (value : Text) : Bool := value.head?.any isQuote

/-- The value meant by what stands after the equals sign. -/
def unquote (raw : Text) : Text :=
  let value := Text.trim raw
  if beginsQuoted value then
    match closingQuote? value with
    | some stop => (value.take stop).drop 1
    | none => value.drop 1
  else Text.trimRight (beforeComment value)

end OpsLint.Env
