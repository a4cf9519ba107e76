import OpsLint.Assoc
import OpsLint.Decimal.Layout
import OpsLint.Settings.Calendar
import OpsLint.Text.Numeral

/-!
# Values of settings

What can stand in a settings file: scalars of several types, lists and mappings. Keys of a mapping
are values too. Two keys are the same if they are equal **as values**, across the types of numbers:
`1`, `1.0` and `true` are one key. Nothing that is not a number is the same as itself.

A value can be shown by itself (`plain`) or within others (`quoted`); texts then are in quotation
marks. Both fail on an integer that is too long to be written.
-/

namespace OpsLint

/-- A value of a settings file. -/
inductive Value where
  | null
  | bool (b : Bool)
  | int (n : Int)
  | float (x : Float)
  | str (s : Text)
  | date (d : Date)
  | moment (m : Moment)
  | list (items : List Value)
  | map (entries : List (Value × Value))

namespace Value

/-- The word for the type of a value. -/
def typeName : Value → Text
  | .null => "NoneType"
  | .bool _ => "bool"
  | .int _ => "int"
  | .float _ => "float"
  | .str _ => "str"
  | .date _ => "date"
  | .moment _ => "datetime"
  | .list _ => "list"
  | .map _ => "dict"

/-- The integer that a value is, if it is a whole number of any type. -/
def toInt? : Value → Option Int
  | .bool b => some (if b then 1 else 0)
  | .int n => some n
  | .float x => (Binary.ofFloat x).toInt?
  | _ => none

/-- Two keys are the same. Lists and mappings are no keys. -/
def sameKey (a b : Value) : Bool :=
  match a, b with
  | .null, .null => true
  | .str s, .str t => s == t
  | .date d, .date e => d == e
  | .moment m, .moment n => m == n
  | .float x, .float y => x == y
  | a, b =>
    match a.toInt?, b.toInt? with
    | some m, some n => m == n
    | _, _ => false

/-- A value that counts as absent at the top of a settings file. -/
def isEmpty : Value → Bool
  | .null => true
  | .bool b => !b
  | .int n => n == 0
  | .float x => x == 0
  | .str s => s.isEmpty
  | .date _ | .moment _ => false
  | .list items => items.isEmpty
  | .map entries => entries.isEmpty

/-- The word for a truth value. -/
def boolWord (b : Bool) : Text := if b then "True" else "False"

mutual

/-- A value as it is written within other values. -/
def quoted : Value → Except Numeral.Error Text
  | .null => .ok "None"
  | .bool b => .ok (boolWord b)
  | .int n => Numeral.write n
  | .float x => .ok (Decimal.shortestText x)
  | .str s => .ok (Text.quoted s)
  | .date d => .ok d.quoted
  | .moment m => .ok m.quoted
  | .list items => do
    return "[" ++ Text.join ", " (← quotedItems items) ++ "]"
  | .map entries => do
    return "\x7b" ++ Text.join ", " (← quotedEntries entries) ++ "\x7d"

/-- The items of a list. -/
def quotedItems : List Value → Except Numeral.Error (List Text)
  | [] => .ok []
  | v :: vs => do
    let text ← quoted v
    return text :: (← quotedItems vs)

/-- The entries of a mapping. -/
def quotedEntries : List (Value × Value) → Except Numeral.Error (List Text)
  | [] => .ok []
  | (k, v) :: entries => do
    let key ← quoted k
    let value ← quoted v
    return (key ++ ": " ++ value) :: (← quotedEntries entries)

end

/-- A value by itself. -/
def plain : Value → Except Numeral.Error Text
  | .str s => .ok s
  | .date d => .ok d.text
  | .moment m => .ok m.text
  | v => v.quoted

/-- A mapping with one more entry. -/
def putEntry (entries : List (Value × Value)) (key value : Value) : List (Value × Value) :=
  Assoc.putBy sameKey key value entries

end Value

end OpsLint
