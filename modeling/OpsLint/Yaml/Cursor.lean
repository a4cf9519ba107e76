import OpsLint.Settings.Calendar
import OpsLint.Text.Numeral

/-!
# A place in a YAML text

The structure of a YAML text depends on lines and columns, so reading it means moving a **cursor**
that knows both. A byte order mark takes up no column.

A text is over when nothing is left of it; then there is no next character (`peek`). The end of a
text is good wherever a blank or a line break would be.
-/

namespace OpsLint.Yaml

/-- Why a YAML text has no value. -/
inductive Error where
  /-- The text is not well-formed, or means nothing. -/
  | malformed
  /-- An escape names a code beyond the last character. -/
  | badCode
  /-- A number is too long to be read. -/
  | numeral (error : Numeral.Error)
  /-- A date or time does not exist. -/
  | calendar (error : CalendarError)
deriving DecidableEq

/-- The wording of the errors that are not about the form of the text. -/
def Error.message : Error → Text
  | .malformed => "malformed"
  | .badCode => "chr() arg not in range(0x110000)"
  | .numeral error => error.message
  | .calendar error => error.message

/-- A character that breaks a line. -/
def isBreak (c : Char) : Bool :=
  c = '\n' || c = '\r' || c.toNat = 0x85 || c.toNat = 0x2028 || c.toNat = 0x2029

/-- The end of the text or a line break. -/
def endsLine (c : Option Char) : Bool := c.all isBreak

/-- The end of the text, a space or a line break. -/
def endsName (c : Option Char) : Bool := c.all fun c => c = ' ' || isBreak c

/-- The end of the text, a blank or a line break. -/
def endsToken (c : Option Char) : Bool := c.all fun c => c = ' ' || c = '\t' || isBreak c

/-- What is left of a text, and where that begins. -/
structure Cursor where
  rest : Text
  /-- The number of characters before. -/
  index : Nat := 0
  line : Nat := 0
  column : Nat := 0

namespace Cursor

/-- The character `k` places on. -/
def peek (c : Cursor) (k : Nat := 0) : Option Char := c.rest[k]?

/-- Moves on by one character. A carriage return before a line feed does not yet end the line. -/
def next (c : Cursor) : Cursor :=
  match c.rest with
  | [] => c
  | ch :: rest =>
    if isBreak ch && !(ch = '\r' && rest.head? = some '\n') then
      { rest, index := c.index + 1, line := c.line + 1, column := 0 }
    else
      { rest
        index := c.index + 1
        line := c.line
        column := if ch.toNat = 0xfeff then c.column else c.column + 1 }

/-- Moves on by some characters. -/
def forward : Nat → Cursor → Cursor
  | 0, c => c
  | n + 1, c => forward n c.next

/-- The characters up to the first one that fails a test. -/
def ahead (c : Cursor) (test : Char → Bool) : Text := c.rest.takeWhile test

/-- Moves on to the first character that fails a test. -/
def skip (c : Cursor) (test : Char → Bool) : Cursor := forward (c.ahead test).length c

/-- Moves on over spaces. -/
def skipSpaces (c : Cursor) : Cursor := c.skip (· = ' ')

/-- Moves on over spaces, but not beyond a column. -/
def skipIndent (c : Cursor) (column : Nat) : Cursor :=
  forward (min (c.ahead (· = ' ')).length (column - c.column)) c

/-- Moves on over a comment. -/
def skipComment (c : Cursor) : Cursor :=
  if c.peek = some '#' then c.skip (!isBreak ·) else c

/-- The line break here, as it counts within a scalar, and the cursor after it. -/
def lineBreak? (c : Cursor) : Option (Char × Cursor) :=
  match c.rest with
  | '\r' :: '\n' :: _ => some ('\n', forward 2 c)
  | ch :: _ =>
    if isBreak ch then
      some (if ch.toNat = 0x2028 || ch.toNat = 0x2029 then ch else '\n', c.next)
    else none
  | [] => none

/-- A mark that begins or ends a document stands here, by its characters. -/
def atDocumentMark (c : Cursor) : Bool :=
  (Text.startsWith c.rest "---" || Text.startsWith c.rest "...") && endsToken (c.peek 3)

end Cursor

/-- A character that can stand in a YAML text. -/
def isAllowed (c : Char) : Bool :=
  let n := c.toNat
  n = 9 || n = 10 || n = 13 || (0x20 ≤ n && n ≤ 0x7e) || n = 0x85 || (0xa0 ≤ n && n ≤ 0xd7ff) ||
    (0xe000 ≤ n && n ≤ 0xfffd) || 0x10000 ≤ n

end OpsLint.Yaml
