import OpsLint.Text.Quoted

/-!
# JSON

Results can be written as JSON: over several lines, indented by two spaces, with the fields of an
object in the order given. All characters beyond ASCII are escaped, those beyond the first plane as
two units.
-/

namespace OpsLint

/-- A value of the kinds that results need. -/
inductive JsonValue where
  | int (n : Int)
  | str (s : Text)
  | list (items : List JsonValue)
  | object (fields : List (Text × JsonValue))

namespace JsonValue

/-- The escape for a unit of sixteen bits. -/
def escapeUnit (n : Nat) : Text := "\\u" ++ Text.hexPadded 4 n

/-- A character within a text. -/
def escapeChar (c : Char) : Text :=
  let n := c.toNat
  if c = '"' then "\\\""
  else if c = '\\' then "\\\\"
  else if c = '\n' then "\\n"
  else if c = '\r' then "\\r"
  else if c = '\t' then "\\t"
  else if n = 8 then "\\b"
  else if n = 12 then "\\f"
  else if 0x20 ≤ n ∧ n < 0x7f then [c]
  else if n < 0x10000 then escapeUnit n
  else escapeUnit (0xd800 + (n - 0x10000) / 0x400) ++ escapeUnit (0xdc00 + (n - 0x10000) % 0x400)

/-- A text in quotation marks. -/
def quoted (s : Text) : Text := '"' :: (s.flatMap escapeChar ++ ['"'])

/-- A new line at a depth. -/
def newLine (depth : Nat) : Text := '\n' :: List.replicate (2 * depth) ' '

/-- Parts between brackets, each in a line of its own. -/
def bracketed (opening closing : Char) (depth : Nat) (parts : List Text) : Text :=
  if parts.isEmpty then [opening, closing]
  else
    opening :: (newLine (depth + 1) ++ Text.join (',' :: newLine (depth + 1)) parts ++
      newLine depth ++ [closing])

mutual

/-- The text of a value at a depth. -/
def render (depth : Nat) : JsonValue → Text
  | .int n => Text.ofInt n
  | .str s => quoted s
  | .list items => bracketed '[' ']' depth (renderItems (depth + 1) items)
  | .object fields =>
    bracketed (Char.ofNat 0x7b) (Char.ofNat 0x7d) depth (renderFields (depth + 1) fields)

/-- The texts of the items of a list. -/
def renderItems (depth : Nat) : List JsonValue → List Text
  | [] => []
  | v :: vs => render depth v :: renderItems depth vs

/-- The texts of the fields of an object. -/
def renderFields (depth : Nat) : List (Text × JsonValue) → List Text
  | [] => []
  | (name, v) :: fields => (quoted name ++ ": " ++ render depth v) :: renderFields depth fields

end

/-- The text of a value. -/
def toText (v : JsonValue) : Text := v.render 0

end JsonValue

end OpsLint
