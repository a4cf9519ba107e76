import OpsLint.Settings.Value
import OpsLint.Yaml.Node
import OpsLint.Yaml.Timestamp

/-!
# What nodes mean

A node means a `Value`. The type of a plain scalar is inferred from its looks: `yes` and `off` are
truth values, `0x1f` and `1_000` are integers, `1:30` is ninety, `2001-01-01` is a date, and what
looks like nothing else is a text.

A mapping can take the entries of others in, under the key `<<`. Its own entries win over them, and
among several the first named. No collection is a key, and of entries with the same key the last
wins.
-/

namespace OpsLint.Yaml

/-- The type of a scalar. -/
inductive ScalarType where
  | null
  | bool
  | int
  | float
  | timestamp
  | str
  /-- The key under which a mapping takes others in. -/
  | merge
  /-- The key for the usual value of a mapping. It means a text as a key and nothing elsewhere. -/
  | usualValue
deriving DecidableEq

namespace ScalarType

/-! ## Inferring types -/

/-- The words for nothing. -/
def nullWords : List Text := ["", "~", "null", "Null", "NULL"]

/-- The words for true. -/
def trueWords : List Text :=
  ["yes", "Yes", "YES", "true", "True", "TRUE", "on", "On", "ON"]

/-- The words for false. -/
def falseWords : List Text :=
  ["no", "No", "NO", "false", "False", "FALSE", "off", "Off", "OFF"]

/-- A digit, or an underscore between digits. -/
def isSpacedDigit (c : Char) : Bool := c.isDigit || c = '_'

/-- A part of a number to the base sixty: at most two digits, and less than sixty. -/
def isSixtieth : Text → Bool
  | [c] => c.isDigit
  | [c, d] => '0' ≤ c && c ≤ '5' && d.isDigit
  | _ => false

/-- A text looks like an integer. -/
def isInt (s : Text) : Bool :=
  match (Decimal.readSign s).2 with
  | ['0'] => true
  | '0' :: 'b' :: ds => !ds.isEmpty && ds.all fun c => c = '0' || c = '1' || c = '_'
  | '0' :: 'x' :: ds => !ds.isEmpty && ds.all fun c => (hexValue? c).isSome || c = '_'
  | '0' :: ds => ds.all fun c => ('0' ≤ c && c ≤ '7') || c = '_'
  | c :: s =>
    c.isDigit &&
      match Text.splitOn ':' s with
      | first :: parts => first.all isSpacedDigit && parts.all isSixtieth
      | [] => false
  | [] => false

/-- The exponent of a number, which may be absent but has a sign. -/
def isExponent : Text → Bool
  | [] => true
  | e :: sign :: ds =>
    (e = 'e' || e = 'E') && (sign = '+' || sign = '-') && !ds.isEmpty && ds.all Char.isDigit
  | [_] => false

/-- A text looks like digits, a point and perhaps an exponent, the digits before the point being to
the base sixty or not. -/
def isPointed (s : Text) : Bool :=
  let whole := s.takeWhile fun c => isSpacedDigit c || c = ':'
  match s.drop whole.length, Text.splitOn ':' whole with
  | '.' :: rest, c :: s =>
    let fraction := rest.takeWhile isSpacedDigit
    let tail := rest.drop fraction.length
    c.head?.any Char.isDigit && s.all isSixtieth &&
      (if s.isEmpty then isExponent tail else tail.isEmpty)
  | _, _ => false

/-- A text looks like a number with a fraction, or like one that is no finite number. -/
def isFloat (s : Text) : Bool :=
  let unsigned := (Decimal.readSign s).2
  isPointed unsigned ||
    ([".inf", ".Inf", ".INF"] : List Text).contains unsigned ||
    ([".nan", ".NaN", ".NAN"] : List Text).contains s ||
    match s with
    | '.' :: c :: rest => c.isDigit && isExponent (rest.dropWhile isSpacedDigit)
    | _ => false

/-- The type that a text looks like. -/
def infer (s : Text) : ScalarType :=
  if nullWords.contains s then .null
  else if trueWords.contains s || falseWords.contains s then .bool
  else if isFloat s then .float
  else if isInt s then .int
  else if (Timestamp.ofText? s).isSome then .timestamp
  else if s = ("<<" : Text) then .merge
  else if s = ['='] then .usualValue
  else .str

/-- The names of the types, within the address that they share. -/
def ofName? (name : Text) : Option ScalarType :=
  if name = ("null" : Text) then some .null
  else if name = ("bool" : Text) then some .bool
  else if name = ("int" : Text) then some .int
  else if name = ("float" : Text) then some .float
  else if name = ("timestamp" : Text) then some .timestamp
  else if name = ("str" : Text) then some .str
  else if name = ("merge" : Text) then some .merge
  else if name = ("value" : Text) then some .usualValue
  else none

end ScalarType

/-- The address that all standard types share. -/
def standardUri : Text := "tag:yaml.org,2002:"

/-- The type of a scalar, if it has one. -/
def scalarType? : TypeMark → Text → Option ScalarType
  | .inferred, s => some (.infer s)
  | .usual, _ => some .str
  | .named uri, _ => (Text.dropStart? standardUri uri).bind ScalarType.ofName?

/-- A collection has the usual type of its form. -/
def isUsual (name : Text) : TypeMark → Bool
  | .named uri => uri = standardUri ++ name
  | _ => true

/-! ## Values of scalars -/

/-- The number that digits to a base denote. -/
def ofBase (base : Nat) (s : Text) : Option Nat :=
  if s.isEmpty then none
  else (s.mapM hexValue?).map (·.foldl (fun n d => base * n + d) 0)

/-- A decimal numeral. -/
def readDecimal (s : Text) : Except Error Nat := (Numeral.read s).mapError .numeral

/-- The size of an integer, without underscores and sign. -/
def readSize (s : Text) : Except Error Nat :=
  let orFail (n : Option Nat) : Except Error Nat := match n with
    | some n => .ok n
    | none => .error (.numeral (.malformed s))
  match s with
  | ['0'] => .ok 0
  | '0' :: 'b' :: ds => orFail (ofBase 2 ds)
  | '0' :: 'x' :: ds => orFail (ofBase 16 ds)
  | '0' :: ds => orFail (ofBase 8 ds)
  | s =>
    (Text.splitOn ':' s).foldlM (fun n part => return 60 * n + (← readDecimal part)) 0

/-- The integer that a text denotes. -/
def readInt (s : Text) : Except Error Int := do
  let (negative, body) := Decimal.readSign (s.filter (· ≠ '_'))
  let size ← readSize body
  return if negative then -(size : Int) else size

/-- The size of a number with a fraction, without underscores and sign. To the base sixty the parts
are added from the last to the first. -/
def readFloatSize? (s : Text) : Option Float :=
  if s = (".inf" : Text) then some (1.0 / 0.0)
  else if s = (".nan" : Text) then some (0.0 / 0.0)
  else if s.contains ':' then do
    let parts ← (Text.splitOn ':' s).mapM Decimal.read?
    let add (part : Float) (acc : Float × Float) : Float × Float :=
      (acc.1 + part * acc.2, acc.2 * 60)
    return (parts.foldr add (0, 1)).1
  else Decimal.read? s

/-- The number with a fraction that a text denotes. -/
def readFloat (s : Text) : Except Error Float :=
  let (negative, body) := Decimal.readSign ((s.filter (· ≠ '_')).map Char.toLower)
  match readFloatSize? body with
  | some size => .ok (if negative then -size else size)
  | none => .error .malformed

/-- The date or time that a text denotes, if it exists. -/
def readTimestamp (s : Text) : Except Error Value :=
  match Timestamp.ofText? s with
  | some (.date year month day) => ((Date.check year month day).map .date).mapError .calendar
  | some (.moment moment) => (moment.check.map .moment).mapError .calendar
  | none => .error .malformed

/-- The truth value of a word, in any letter case. -/
def readBool (s : Text) : Except Error Value :=
  let word := s.map Char.toLower
  if ScalarType.trueWords.contains word then .ok (.bool true)
  else if ScalarType.falseWords.contains word then .ok (.bool false)
  else .error .malformed

/-- The value of a scalar of a type. -/
def ScalarType.value (s : Text) : ScalarType → Except Error Value
  | .null => .ok .null
  | .bool => readBool s
  | .int => (readInt s).map .int
  | .float => (readFloat s).map .float
  | .timestamp => readTimestamp s
  | .str => .ok (.str s)
  | .merge | .usualValue => .error .malformed

/-! ## Values of nodes -/

/-- A node is the key under which a mapping takes others in. -/
def Node.isMerge : Node → Bool
  | .scalar mark s => scalarType? mark s = some .merge
  | _ => false

/-- The entries of a mapping that it takes in, and its own. -/
structure Entries where
  taken : List (Value × Value) := []
  own : List (Value × Value) := []

/-- All entries of a mapping, those that it takes in first. -/
def Entries.all (e : Entries) : List (Value × Value) := e.taken ++ e.own

/-- The mapping of some entries. -/
def mapOf (entries : List (Value × Value)) : Value :=
  .map (entries.foldl (fun acc entry => Value.putEntry acc entry.1 entry.2) [])

namespace Node

mutual

/-- The value that a node means. -/
def value : Node → Except Error Value
  | .scalar mark s =>
    match scalarType? mark s with
    | some type => type.value s
    | none => .error .malformed
  | .sequence mark items => do
    if !isUsual "seq" mark then throw .malformed
    return .list (← values items)
  | .mapping mark entries => do
    if !isUsual "map" mark then throw .malformed
    return mapOf (← entryValues entries).all

/-- The values of the items of a sequence. -/
def values : List Node → Except Error (List Value)
  | [] => .ok []
  | node :: nodes => do
    let v ← value node
    return v :: (← values nodes)

/-- The entries of a mapping. -/
def entryValues : List (Node × Node) → Except Error Entries
  | [] => .ok {}
  | (key, node) :: rest => do
    if key.isMerge then
      let taken ← takenEntries node
      let entries ← entryValues rest
      return { entries with taken := taken ++ entries.taken }
    let k ← keyValue key
    let v ← value node
    let entries ← entryValues rest
    return { entries with own := (k, v) :: entries.own }

/-- The value of a key. -/
def keyValue : Node → Except Error Value
  | .scalar mark s =>
    match scalarType? mark s with
    | some .usualValue => .ok (.str s)
    | some type => type.value s
    | none => .error .malformed
  | _ => .error .malformed

/-- The entries that a node gives to a mapping: those of a mapping, or of several. -/
def takenEntries : Node → Except Error (List (Value × Value))
  | .mapping _ entries => return (← entryValues entries).all
  | .sequence _ nodes => takenFromAll nodes
  | .scalar _ _ => .error .malformed

/-- The entries that several mappings give, those of the last first, so that the first named wins.
-/
def takenFromAll : List Node → Except Error (List (Value × Value))
  | [] => .ok []
  | .mapping _ entries :: nodes => do
    let first ← entryValues entries
    return (← takenFromAll nodes) ++ first.all
  | _ => .error .malformed

end

end Node

/-- The value of a text, which is null if the text is empty. -/
def read (text : Text) : Except Error Value := do
  match ← Node.ofTokens (← tokens text) with
  | some node => node.value
  | none => return .null

end OpsLint.Yaml
