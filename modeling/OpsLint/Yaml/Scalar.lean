import OpsLint.Yaml.Cursor

/-!
# Scalars

A scalar is a text within a YAML text, in one of three forms: between quotation marks, plain, or as
a block of lines. In all of them line breaks are **folded**: a single one becomes a space, and of
several the first is dropped. Blocks keep their line breaks if they are literal.

The readers here are loops that use up at least one character in each round. They carry a number of
rounds, which is one more than the characters left at the start, so that it never runs out.
-/

namespace OpsLint.Yaml

/-- What a line break and further ones after it become: `first` is folded, the others are kept. -/
def foldBreaks (first : Char) (more : Text) : Text :=
  if first ≠ '\n' then first :: more
  else if more.isEmpty then [' '] else more

/-! ## Quoted scalars -/

/-- The line breaks after one within a quoted scalar, with blanks between them. A document cannot
end there. -/
def quotedBreaks : Nat → Cursor → Except Error (Text × Cursor)
  | 0, _ => .error .malformed
  | n + 1, c =>
    if c.atDocumentMark then .error .malformed
    else
      let c := c.skip fun ch => ch = ' ' || ch = '\t'
      match c.lineBreak? with
      | none => .ok ([], c)
      | some (ch, c) => do
        let (more, c) ← quotedBreaks n c
        return (ch :: more, c)

/-- The character that a letter after a backslash stands for. -/
def escapes : List (Char × Char) :=
  [('0', Char.ofNat 0), ('a', Char.ofNat 7), ('b', Char.ofNat 8), ('t', '\t'), ('\t', '\t'),
   ('n', '\n'), ('v', Char.ofNat 11), ('f', Char.ofNat 12), ('r', '\r'), ('e', Char.ofNat 27),
   (' ', ' '), ('"', '"'), ('\\', '\\'), ('/', '/'), ('N', Char.ofNat 0x85),
   ('_', Char.ofNat 0xa0), ('L', Char.ofNat 0x2028), ('P', Char.ofNat 0x2029)]

/-- The number of hexadecimal digits after a letter. -/
def escapeWidths : List (Char × Nat) := [('x', 2), ('u', 4), ('U', 8)]

/-- The value of a hexadecimal digit. -/
def hexValue? (c : Char) : Option Nat :=
  if c.isDigit then some (c.toNat - '0'.toNat)
  else if 'a' ≤ c && c ≤ 'f' then some (c.toNat - 'a'.toNat + 10)
  else if 'A' ≤ c && c ≤ 'F' then some (c.toNat - 'A'.toNat + 10)
  else none

/-- The number that hexadecimal digits denote. -/
def hexNumber? (s : Text) : Option Nat :=
  (s.mapM hexValue?).map (·.foldl (fun n d => 16 * n + d) 0)

/-- What follows a backslash, and the cursor after it. -/
def readEscape (c : Cursor) : Except Error (Text × Cursor) :=
  match c.peek with
  | none => .error .malformed
  | some letter =>
    match escapes.lookup letter, escapeWidths.lookup letter with
    | some ch, _ => .ok ([ch], c.next)
    | none, some width =>
      let digits := c.next.rest.take width
      match hexNumber? digits with
      | some code =>
        if digits.length < width then .error .malformed
        else if 0x110000 ≤ code then .error .badCode
        else .ok ([Char.ofNat code], c.next.forward width)
      | none => .error .malformed
    | none, none =>
      match c.lineBreak? with
      | some (_, c) => quotedBreaks (c.rest.length + 1) c
      | none => .error .malformed

/-- The rest of a quoted scalar, after its opening mark. -/
def readQuoted (mark : Char) : Nat → Cursor → Except Error (Text × Cursor)
  | 0, _ => .error .malformed
  | n + 1, c =>
    let go (piece : Text) (c : Cursor) : Except Error (Text × Cursor) := do
      let (more, c) ← readQuoted mark n c
      return (piece ++ more, c)
    match c.peek with
    | none => .error .malformed
    | some ch =>
      if ch = mark then
        if mark = '\'' && c.peek 1 = some '\'' then go ['\''] (c.forward 2) else .ok ([], c.next)
      else if ch = '\\' && mark = '"' then do
        let (piece, c) ← readEscape c.next
        go piece c
      else if ch = ' ' || ch = '\t' || isBreak ch then
        let blanks := c.ahead fun ch => ch = ' ' || ch = '\t'
        let c := c.forward blanks.length
        match c.lineBreak? with
        | none => if blanks.isEmpty then .error .malformed else go blanks c
        | some (first, c) => do
          let (breaks, c) ← quotedBreaks (c.rest.length + 1) c
          go (foldBreaks first breaks) c
      else go [ch] c.next

/-! ## Plain scalars -/

/-- A plain scalar is over before this character, given the one after it. -/
def endsPlain (inFlow : Bool) (c after : Option Char) : Bool :=
  match c with
  | none => true
  | some ch =>
    endsToken c ||
      (ch = ':' && (endsToken after || (inFlow && after.any (",[]\x7b\x7d".toList.contains ·)))) ||
      (inFlow && ",?[]\x7b\x7d".toList.contains ch)

/-- The part of a plain scalar up to the next blank or its end. -/
def plainRun (inFlow : Bool) : Text → Text
  | [] => []
  | ch :: s => if endsPlain inFlow (some ch) s.head? then [] else ch :: plainRun inFlow s

/-- The blanks and line breaks after a part of a plain scalar. -/
structure PlainGap where
  /-- What they become within the scalar. Nothing ends the scalar. -/
  text : Text := []
  /-- They hold a line break. -/
  broken : Bool := false
  cursor : Cursor

/-- The line breaks after one within a plain scalar, with spaces between them; `none` if the
document ends there. -/
def plainBreaks : Nat → Cursor → Option Text × Cursor
  | 0, c => (none, c)
  | n + 1, c =>
    if c.atDocumentMark then (none, c)
    else
      let c := c.skipSpaces
      match c.lineBreak? with
      | none => (some [], c)
      | some (ch, c) =>
        let (more, c) := plainBreaks n c
        (more.map (ch :: ·), c)

/-- Reads the blanks and line breaks after a part of a plain scalar. -/
def plainGap (c : Cursor) : PlainGap :=
  let spaces := c.ahead (· = ' ')
  let c := c.forward spaces.length
  match c.lineBreak? with
  | none => { text := spaces, cursor := c }
  | some (first, c) =>
    match plainBreaks (c.rest.length + 1) c with
    | (none, c) => { broken := true, cursor := c }
    | (some breaks, c) => { text := foldBreaks first breaks, broken := true, cursor := c }

/-- A scalar, whether a line break came after it, and the cursor after that. -/
structure PlainScalar where
  text : Text := []
  broken : Bool := false
  cursor : Cursor

/-- Reads a plain scalar, or what is left of one after a gap. In a block, a line that is indented
less than `indent` does not belong to it. -/
def readPlain (inFlow : Bool) (indent : Int) (gap : PlainGap) : Nat → PlainScalar
  | 0 => { broken := gap.broken, cursor := gap.cursor }
  | n + 1 =>
    let c := gap.cursor
    let run := plainRun inFlow c.rest
    if c.peek = some '#' || run.isEmpty then { broken := gap.broken, cursor := c }
    else
      let after := plainGap (c.forward run.length)
      if after.text.isEmpty || after.cursor.peek = some '#' ||
          (!inFlow && (after.cursor.column : Int) < indent) then
        { text := gap.text ++ run, broken := after.broken, cursor := after.cursor }
      else
        let rest := readPlain inFlow indent after n
        { rest with text := gap.text ++ run ++ rest.text }

/-! ## Block scalars -/

/-- What happens to the line breaks at the end of a block. -/
inductive Chomping where
  | strip
  | clip
  | keep
deriving DecidableEq

/-- The header of a block. -/
structure BlockHeader where
  chomping : Chomping := .clip
  /-- The indentation of the block beyond that of its surroundings, if it is given. -/
  increment : Option Nat := none

/-- Reads the chomping of a block. -/
def readChomping (c : Cursor) : Option Chomping × Cursor :=
  if c.peek = some '+' then (some .keep, c.next)
  else if c.peek = some '-' then (some .strip, c.next)
  else (none, c)

/-- Reads the indentation of a block, which is a digit other than zero. -/
def readIncrement (c : Cursor) : Except Error (Option Nat × Cursor) :=
  match c.peek with
  | some ch =>
    if ch = '0' then .error .malformed
    else if ch.isDigit then .ok (some (ch.toNat - '0'.toNat), c.next)
    else .ok (none, c)
  | none => .ok (none, c)

/-- Reads the header of a block, in which chomping and indentation come in either order, and the
rest of its line. -/
def readBlockHeader (c : Cursor) : Except Error (BlockHeader × Cursor) := do
  let (before, c) := readChomping c
  let (increment, c) ← readIncrement c
  let (after, c) := if before.isNone && increment.isSome then readChomping c else (none, c)
  if !endsName c.peek then throw .malformed
  let c := c.skipSpaces.skipComment
  if !endsLine c.peek then throw .malformed
  let header := { chomping := (before.or after).getD .clip, increment }
  match c.lineBreak? with
  | some (_, c) => return (header, c)
  | none => return (header, c)

/-- The empty lines at the start of a block, the greatest indentation among them and of the line
after them, and the cursor there. -/
def blockStart : Nat → Cursor → Text × Nat × Cursor
  | 0, c => ([], 0, c)
  | n + 1, c =>
    let c := c.skipSpaces
    match c.lineBreak? with
    | none => ([], c.column, c)
    | some (ch, after) =>
      let (breaks, column, last) := blockStart n after
      (ch :: breaks, max c.column column, last)

/-- The empty lines between the lines of a block, and the cursor after them and the indentation that
belongs to the block. -/
def blockBreaks (indent : Nat) : Nat → Cursor → Text × Cursor
  | 0, c => ([], c)
  | n + 1, c =>
    let c := c.skipIndent indent
    match c.lineBreak? with
    | none => ([], c)
    | some (ch, c) =>
      let (breaks, c) := blockBreaks indent n c
      (ch :: breaks, c)

/-- Another line of the block begins here. -/
def inBlock (indent : Nat) (c : Cursor) : Bool := c.column = indent && c.peek.isSome

/-- A blank is the next character. -/
def atBlank (c : Cursor) : Bool := c.peek = some ' ' || c.peek = some '\t'

/-- Reads the lines of a block from a cursor at the text of one of them, with the empty lines before
it. The line break of a folded line becomes a space or goes, unless a line beside it begins with a
blank. -/
def readBlockLines (folded : Bool) (chomping : Chomping) (indent : Nat) (breaks : Text) :
    Nat → Cursor → Text × Cursor
  | 0, c => ([], c)
  | n + 1, c =>
    let line := c.ahead (!isBreak ·)
    let after := c.forward line.length
    let (lineBreak, after) : Text × Cursor := match after.lineBreak? with
      | some (ch, after) => ([ch], after)
      | none => ([], after)
    let (nextBreaks, after) := blockBreaks indent (after.rest.length + 1) after
    if inBlock indent after then
      let join : Text :=
        if folded && lineBreak = ['\n'] && !atBlank c && !atBlank after then
          (if nextBreaks.isEmpty then [' '] else [])
        else lineBreak
      let (rest, last) := readBlockLines folded chomping indent nextBreaks n after
      (breaks ++ line ++ join ++ rest, last)
    else
      let tail : Text := match chomping with
        | .strip => []
        | .clip => lineBreak
        | .keep => lineBreak ++ nextBreaks
      (breaks ++ line ++ tail, after)

/-- Reads a block after the mark that begins it; `indent` is the indentation of its surroundings. -/
def readBlock (folded : Bool) (indent : Int) (c : Cursor) : Except Error (Text × Cursor) := do
  let (header, c) ← readBlockHeader c
  let least := (max 1 (indent + 1)).toNat
  let (breaks, column, c) : Text × Nat × Cursor := match header.increment with
    | some increment =>
      let column := least + increment - 1
      let (breaks, c) := blockBreaks column (c.rest.length + 1) c
      (breaks, column, c)
    | none =>
      let (breaks, column, c) := blockStart (c.rest.length + 1) c
      (breaks, max least column, c)
  if inBlock column c then
    return readBlockLines folded header.chomping column breaks (c.rest.length + 1) c
  else
    return (if header.chomping = .keep then breaks else [], c)

end OpsLint.Yaml
