import OpsLint.Text.Basic
import OpsLint.Text.Printable

/-!
# Quoted text

A text is shown between quotation marks so that it can be told apart from its surroundings. Single
marks are the rule; double marks are taken for a text that has a single mark and no double one, so
that it needs no escape. Within the marks a backslash stands before a backslash and before the mark
itself, the three usual controls have their letters, and a character that cannot be printed is given
by its code in two, four or eight hexadecimal digits, whichever is the least that holds it.
-/

namespace OpsLint.Text

/-- The hexadecimal digits of `n`, padded with zeros to at least `width`. -/
def hexPadded (width n : Nat) : Text :=
  let digits := Nat.toDigits 16 n
  List.replicate (width - digits.length) '0' ++ digits

/-- A character as it is written between quotation marks `mark`. -/
def escapeChar (mark c : Char) : Text :=
  if c = mark || c = '\\' then ['\\', c]
  else if c = '\t' then "\\t"
  else if c = '\n' then "\\n"
  else if c = '\r' then "\\r"
  else if isPrintable c then [c]
  else if c.toNat < 0x100 then "\\x" ++ hexPadded 2 c.toNat
  else if c.toNat < 0x10000 then "\\u" ++ hexPadded 4 c.toNat
  else "\\U" ++ hexPadded 8 c.toNat

/-- A text between quotation marks. -/
def quoted (s : Text) : Text :=
  let mark := if s.contains '\'' && !s.contains '"' then '"' else '\''
  mark :: s.flatMap (escapeChar mark) ++ [mark]

end OpsLint.Text
