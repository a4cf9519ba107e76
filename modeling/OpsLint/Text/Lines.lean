import OpsLint.Text.Basic

/-!
# Lines

A text is cut into lines at every **line terminator**; a carriage return and the line feed right
after it are one terminator. The last line needs no terminator, and a terminator at the very end
opens no further line, so that the empty text has no line at all.

`lines` reads a text from its end to its beginning. A terminator opens a new empty line in front of
the lines found so far, and any other character is put in front of the first of them. The step has
to know whether the character just read was a line feed, and for that it keeps `afterFeed` beside
the lines.
-/

namespace OpsLint.Text

/-- The characters that end a line. -/
def isTerminator (c : Char) : Bool :=
  let n := c.toNat
  (10 ≤ n && n ≤ 13) || (0x1c ≤ n && n ≤ 0x1e) || n == 0x85 || n == 0x2028 || n == 0x2029

/-- What has been read of a text from its end on. -/
structure LinesState where
  /-- The lines of the part read. -/
  found : List Text := []
  /-- The part read begins with a line feed. -/
  afterFeed : Bool := false

/-- Reads one more character in front of the part already read. -/
def LinesState.read (c : Char) (st : LinesState) : LinesState :=
  if c = '\r' && st.afterFeed then { st with afterFeed := false }
  else if isTerminator c then { found := [] :: st.found, afterFeed := c = '\n' }
  else match st.found with
    | [] => { found := [[c]] }
    | line :: rest => { found := (c :: line) :: rest }

/-- The lines of a text, without their terminators. -/
def lines (s : Text) : List Text :=
  (s.foldr LinesState.read {}).found

end OpsLint.Text
