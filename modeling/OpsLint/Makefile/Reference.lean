import OpsLint.Text.Identifier

/-!
# References to variables

A reference is a dollar sign and a name in brackets, round or curly, with an optional substitution
after a colon. A dollar sign right after another one is not the start of a reference.

Whether a reference is **quoted** is decided as a shell would: `QuoteScan` follows the quotation
marks and backslashes of what stands before it. Within single quotes a backslash has no meaning.
-/

namespace OpsLint.Makefile

/-- A shell's view of a text read so far. -/
structure QuoteScan where
  /-- The quotation mark that is open. -/
  quote : Option Char := none
  /-- The last character was a backslash that counts. -/
  escaped : Bool := false
deriving DecidableEq, Repr

/-- Reads one character. -/
def QuoteScan.read (st : QuoteScan) (c : Char) : QuoteScan :=
  if st.escaped then { st with escaped := false }
  else if c = '\\' && st.quote ≠ some '\'' then { st with escaped := true }
  else match st.quote with
    | some quote => if c = quote then { st with quote := none } else st
    | none => if c = '\'' || c = '"' then { st with quote := some c } else st

/-- A text ends inside a quotation. -/
def endsInQuote (s : Text) : Bool := (s.foldl QuoteScan.read {}).quote.isSome

/-- A reference to a variable and its place. -/
structure VariableRef where
  name : Text
  quoted : Bool
  line : Nat
  column : Nat
deriving DecidableEq, Repr

/-- A closing bracket of either form. -/
def isClosing (c : Char) : Bool := c = ')' || c = '\x7d'

/-- The name in the brackets after a dollar sign, and the number of characters up to the closing
bracket, included. -/
def bracketedName? (s : Text) : Option (Text × Nat) :=
  match s with
  | c :: inside =>
    if c = '(' || c = '\x7b' then do
      let (name, rest) ← Text.takeKey? inside
      match rest with
      | ':' :: more =>
        let substitution := more.takeWhile (!isClosing ·)
        if substitution.length < more.length then
          some (name, name.length + substitution.length + 3)
        else none
      | d :: _ => if isClosing d then some (name, name.length + 2) else none
      | [] => none
    else none
  | [] => none

/-- The references in a text, each with its position. `scan` and `last` tell what has been read, up
to position `pos`, and `skip` how many of the next characters belong to a reference already
found. -/
def refsFrom (scan : QuoteScan) (last : Option Char) (pos skip : Nat) :
    Text → List (Nat × Text × Bool)
  | [] => []
  | c :: s =>
    let go (skip : Nat) := refsFrom (scan.read c) (some c) (pos + 1) skip s
    if skip ≠ 0 then go (skip - 1)
    else if c = '$' && last ≠ some '$' then
      match bracketedName? s with
      | some (name, size) => (pos, name, scan.quote.isSome) :: go size
      | none => go 0
    else go 0

/-- The references in a text that stands on a line after `offset` other characters. -/
def variableRefs (text : Text) (line offset : Nat) : List VariableRef :=
  (refsFrom {} none 0 0 text).map fun (pos, name, quoted) =>
    { name, quoted, line, column := offset + pos + 1 }

end OpsLint.Makefile
