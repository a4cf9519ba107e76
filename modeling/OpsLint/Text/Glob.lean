import OpsLint.Text.Basic

/-!
# Glob patterns

A glob pattern matches whole texts: `*` stands for any run of characters, `?` for any one, and a
bracket expression for one character of a set. Letter case counts.

A bracket expression ends at the first `]` that is not its first character; without one, the opening
bracket stands for itself. A leading `!` negates the set. A hyphen between two characters makes a
range of them, and a range whose ends are the wrong way round holds nothing: both its ends and the
hyphen are dropped (`dropEmptyRanges`), and **whatever comes to stand first then** decides about the
negation. Any other hyphen stands for itself.

`Part.matches` says what one part of a pattern does, `matches` folds it over the pattern, and a star
tries every suffix of what is left.
-/

namespace OpsLint.Glob

/-- One element of a pattern. -/
inductive Part where
  /-- Any run of characters. -/
  | star
  /-- One character, and that it lies in one of the ranges is `!negated`. -/
  | oneOf (negated : Bool) (ranges : List (Char × Char))
deriving Repr

/-- The part that stands for one fixed character. -/
def Part.literal (c : Char) : Part := .oneOf false [(c, c)]

/-- The part that stands for any one character. -/
def Part.anyChar : Part := .oneOf true []

/-! ## Bracket expressions -/

/-- Cuts the inside of a bracket expression at the hyphens that make a range. At least `skip`
characters come before the next such hyphen; `chunk` holds what has been read of the current piece,
last character first. -/
def cutRanges (skip : Nat) (chunk : Text) : Text → List Text
  | [] => [chunk.reverse]
  | c :: s =>
    if skip = 0 && c = '-' then chunk.reverse :: cutRanges 2 [] s
    else cutRanges (skip - 1) (c :: chunk) s

/-- A hyphen at the very end makes no range. -/
def keepLastHyphen : List Text → List Text
  | [] => []
  | [chunk] => [chunk]
  | [chunk, []] => [chunk ++ ['-']]
  | chunk :: chunks => chunk :: keepLastHyphen chunks

/-- Drops the ranges, between neighbouring pieces, whose start lies after their end. -/
def dropEmptyRanges : List Text → List Text
  | [] => []
  | chunk :: chunks =>
    match chunk.getLast?, dropEmptyRanges chunks with
    | some lo, (hi :: more) :: rest =>
      if hi < lo then (chunk.dropLast ++ more) :: rest else chunk :: (hi :: more) :: rest
    | _, rest => chunk :: rest

/-- The set that a list of pieces denotes: each character by itself, and between two pieces the
range from the last character of the one to the first of the other. -/
def rangesOf : List Text → List (Char × Char)
  | [] => []
  | chunk :: chunks =>
    let single := chunk.map fun c => (c, c)
    match chunk.getLast?, chunks with
    | _, [] => single
    | none, _ => ('-', '-') :: rangesOf chunks
    | some lo, next :: _ => single ++ (match next.head? with
        | some hi => [(lo, hi)]
        | none => []) ++ rangesOf chunks

/-- The part that the inside of a bracket expression denotes. -/
def bracket (inside : Text) : Part :=
  let skip := if inside.head? = some '!' then 2 else 1
  match dropEmptyRanges (keepLastHyphen (cutRanges skip [] inside)) with
  | ('!' :: chunk) :: chunks => .oneOf true (rangesOf (chunk :: chunks))
  | chunks => .oneOf false (rangesOf chunks)

/-- The inside of a bracket expression whose opening bracket has been read, and what follows its
closing bracket. -/
def bracketInside? (s : Text) : Option (Text × Text) :=
  let (sign, s) := match s with
    | '!' :: s => (['!'], s)
    | s => ([], s)
  let (first, s) := match s with
    | ']' :: s => ([']'], s)
    | s => ([], s)
  (Text.cut? ']' s).map fun (body, rest) => (sign ++ first ++ body, rest)

/-! ## Patterns -/

/-- Reads a pattern of which the first `skip` characters have been used up already. -/
def partsFrom (skip : Nat) : Text → List Part
  | [] => []
  | c :: s =>
    if skip ≠ 0 then partsFrom (skip - 1) s
    else if c = '*' then .star :: partsFrom 0 s
    else if c = '?' then .anyChar :: partsFrom 0 s
    else if c = '[' then
      match bracketInside? s with
      | some (inside, _) => bracket inside :: partsFrom (inside.length + 1) s
      | none => .literal '[' :: partsFrom 0 s
    else .literal c :: partsFrom 0 s

/-- The parts of a pattern. -/
def parts (pattern : Text) : List Part := partsFrom 0 pattern

/-- A text and all its suffixes, the longest first. -/
def suffixes : Text → List Text
  | [] => [[]]
  | c :: s => (c :: s) :: suffixes s

/-- A list of parts matches a whole text. -/
def matchesParts : List Part → Text → Bool
  | [], s => s.isEmpty
  | .star :: parts, s => (suffixes s).any fun rest => matchesParts parts rest
  | .oneOf _ _ :: _, [] => false
  | .oneOf negated ranges :: parts, c :: s =>
    (ranges.any fun r => r.1 ≤ c && c ≤ r.2) != negated && matchesParts parts s

/-- A text matches a glob pattern. -/
def isMatch (pattern text : Text) : Bool := matchesParts (parts pattern) text

end OpsLint.Glob
