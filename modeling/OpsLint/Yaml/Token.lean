import OpsLint.Text.Utf8
import OpsLint.Yaml.Scalar

/-!
# Tokens

A YAML text is a sequence of tokens. Most are single marks. Blocks, which indentation makes, have
tokens of their own at their ends.

That a text is a **key** shows only at the colon after it, so the token for the key is put in front
of it then. A `KeyMark` remembers where a key may begin, one in each nest of brackets. A key and its
colon stand in one line, at most 1024 characters apart; where the indentation leaves nothing but a
key, a missing colon is an error.
-/

namespace OpsLint.Yaml

/-- An instruction to readers, in a line before a document. -/
inductive Directive where
  | version (major : Nat)
  | tag (handle uri : Text)
  | other
deriving DecidableEq

/-- A token. The end of the tokens is the end of the text. -/
inductive Token where
  | directive (directive : Directive)
  | documentStart
  | documentEnd
  | blockSequence
  | blockMapping
  | blockEnd
  | openSequence
  | closeSequence
  | openMapping
  | closeMapping
  | comma
  | dash
  | key
  | value
  | alias (name : Text)
  | anchor (name : Text)
  | tag (handle : Option Text) (suffix : Text)
  | scalar (text : Text) (isPlain : Bool)
deriving DecidableEq

/-! ## Names -/

/-- A character of a name. -/
def isNameChar (c : Char) : Bool := c.isAlphanum || c = '-' || c = '_'

/-- Reads a name, which is not empty. -/
def readName (c : Cursor) : Except Error (Text × Cursor) :=
  let name := c.ahead isNameChar
  if name.isEmpty then .error .malformed else .ok (name, c.forward name.length)

/-- Reads the name of an anchor or an alias, after its mark. -/
def readAnchor (c : Cursor) : Except Error (Text × Cursor) := do
  let (name, c) ← readName c
  if !endsToken c.peek && !c.peek.any ("?:,]\x7d%@`".toList.contains ·) then throw .malformed
  return (name, c)

/-! ## Tags -/

/-- A character of the address in a tag. -/
def isUriChar (c : Char) : Bool := c.isAlphanum || "-;/?:@&=+$,_.!~*'()[]%".toList.contains c

/-- The octets that percent signs and digits at the start of a text stand for, and the rest. -/
def percentOctets : Text → Except Error (List UInt8 × Text)
  | '%' :: a :: b :: s =>
    match hexNumber? [a, b] with
    | some n => do
      let (octets, rest) ← percentOctets s
      return (UInt8.ofNat n :: octets, rest)
    | none => .error .malformed
  | '%' :: _ => .error .malformed
  | s => .ok ([], s)

/-- Replaces octets that are written with percent signs. -/
def decodePercents : Nat → Text → Except Error Text
  | 0, _ => .error .malformed
  | n + 1, s =>
    match s with
    | [] => .ok []
    | '%' :: _ => do
      let (octets, rest) ← percentOctets s
      match Utf8.decode? octets with
      | some text => return text ++ (← decodePercents n rest)
      | none => throw .malformed
    | ch :: s => do return ch :: (← decodePercents n s)

/-- Reads the address in a tag, which is not empty. -/
def readUri (c : Cursor) : Except Error (Text × Cursor) := do
  let raw := c.ahead isUriChar
  if raw.isEmpty then throw .malformed
  let uri ← decodePercents (raw.length + 1) raw
  return (uri, c.forward raw.length)

/-- Reads the handle of a tag: an exclamation mark by itself before a space, or two with a name
between them that may be empty. -/
def readHandle (c : Cursor) : Except Error (Text × Cursor) :=
  if c.peek ≠ some '!' then .error .malformed
  else if c.peek 1 = some ' ' then .ok (['!'], c.next)
  else
    let name := c.next.ahead isNameChar
    if c.peek (name.length + 1) = some '!' then
      .ok ('!' :: (name ++ ['!']), c.forward (name.length + 2))
    else .error .malformed

/-- Reads a tag. -/
def readTag (c : Cursor) : Except Error (Token × Cursor) := do
  let (token, c) ←
    if c.peek 1 = some '<' then do
      let (uri, c) ← readUri (c.forward 2)
      if c.peek ≠ some '>' then throw .malformed
      pure (Token.tag none uri, c.next)
    else if endsToken (c.peek 1) then
      pure (Token.tag none ['!'], c.next)
    else do
      let hasHandle := (c.next.ahead fun ch => !(ch = ' ' || isBreak ch)).contains '!'
      let (handle, c) ← if hasHandle then readHandle c else pure (['!'], c.next)
      let (suffix, c) ← readUri c
      pure (Token.tag (some handle) suffix, c)
  if !endsName c.peek then throw .malformed
  return (token, c)

/-! ## Directives -/

/-- Reads a number. -/
def readNumber (c : Cursor) : Except Error (Nat × Cursor) :=
  let digits := c.ahead Char.isDigit
  if digits.isEmpty then .error .malformed
  else match Numeral.read digits with
    | .ok n => .ok (n, c.forward digits.length)
    | .error e => .error (.numeral e)

/-- Reads a directive after its mark, to the end of its line. -/
def readDirective (c : Cursor) : Except Error (Directive × Cursor) := do
  let (name, c) ← readName c
  if !endsName c.peek then throw .malformed
  let (directive, c) ←
    if name = ("YAML" : Text) then do
      let (major, c) ← readNumber c.skipSpaces
      if c.peek ≠ some '.' then throw .malformed
      let (_, c) ← readNumber c.next
      if !endsName c.peek then throw .malformed
      pure (Directive.version major, c)
    else if name = ("TAG" : Text) then do
      let (handle, c) ← readHandle c.skipSpaces
      if c.peek ≠ some ' ' then throw .malformed
      let (uri, c) ← readUri c.skipSpaces
      if !endsName c.peek then throw .malformed
      pure (Directive.tag handle uri, c)
    else pure (Directive.other, c.skip (!isBreak ·))
  let c := c.skipSpaces.skipComment
  if !endsLine c.peek then throw .malformed
  return (directive, (c.lineBreak?.map (·.2)).getD c)

/-! ## The scan -/

/-- Where a key may begin. -/
structure KeyMark where
  /-- The number of tokens before it. -/
  place : Nat
  /-- Nothing but a key can stand there. -/
  required : Bool
  index : Nat
  line : Nat
  column : Nat

/-- The reading of a text into tokens. -/
structure Scan where
  cursor : Cursor
  /-- The number of open brackets. -/
  depth : Nat := 0
  /-- The indentation of the innermost block. -/
  indent : Int := -1
  /-- The indentations of the blocks around it. -/
  outer : List Int := []
  /-- A key may begin here. -/
  keyAllowed : Bool := true
  /-- Where keys may begin, by the number of brackets around. -/
  marks : List (Nat × KeyMark) := []
  /-- The tokens so far, the last first. -/
  found : List Token := []

namespace Scan

/-- No bracket is open. -/
def inBlock (s : Scan) : Bool := s.depth = 0

/-- Adds a token. -/
def emit (s : Scan) (token : Token) : Scan := { s with found := token :: s.found }

/-- Adds a token after the first `place` ones. -/
def insertAt (s : Scan) (place : Nat) (token : Token) : Scan :=
  let later := s.found.length - place
  { s with found := s.found.take later ++ token :: s.found.drop later }

/-- Moves on by some characters. -/
def forward (s : Scan) (n : Nat) : Scan := { s with cursor := s.cursor.forward n }

/-- Forgets the place where a key may begin within the present brackets. -/
def dropMark (s : Scan) : Except Error Scan :=
  match s.marks.lookup s.depth with
  | none => .ok s
  | some mark =>
    if mark.required then .error .malformed
    else .ok { s with marks := s.marks.filter (·.1 ≠ s.depth) }

/-- Forgets the places that are too far back to begin a key. -/
def dropStale (s : Scan) : Except Error Scan :=
  let isStale (mark : KeyMark) : Bool :=
    mark.line ≠ s.cursor.line || 1024 < s.cursor.index - mark.index
  if s.marks.any fun (_, mark) => isStale mark && mark.required then .error .malformed
  else .ok { s with marks := s.marks.filter fun (_, mark) => !isStale mark }

/-- Notes that a key may begin here, if one may. -/
def saveMark (s : Scan) : Except Error Scan := do
  if !s.keyAllowed then return s
  let s ← s.dropMark
  let mark : KeyMark :=
    { place := s.found.length
      required := s.inBlock && s.indent = s.cursor.column
      index := s.cursor.index
      line := s.cursor.line
      column := s.cursor.column }
  return { s with marks := (s.depth, mark) :: s.marks }

/-- Closes the blocks that are indented more than `column`, where `outer` are those around. -/
def closeBlocks (column : Int) : List Int → Scan → Scan
  | [], s => { s with outer := [] }
  | around :: outer, s =>
    if column < s.indent then closeBlocks column outer { s.emit .blockEnd with indent := around }
    else { s with outer := around :: outer }

/-- Closes the blocks that are indented more than `column`. Within brackets indentation has no
meaning. -/
def unwind (s : Scan) (column : Int) : Scan :=
  if s.inBlock then closeBlocks column s.outer s else s

/-- Opens a block at a column beyond the present indentation: `true` if it is one. -/
def openBlock (s : Scan) (column : Nat) : Bool × Scan :=
  if s.indent < column then (true, { s with indent := column, outer := s.indent :: s.outer })
  else (false, s)

/-- Moves on to the next token, over spaces, comments and line breaks. -/
def skipToToken : Nat → Scan → Scan
  | 0, s => s
  | n + 1, s =>
    let c := s.cursor.skipSpaces.skipComment
    match c.lineBreak? with
    | none => { s with cursor := c }
    | some (_, c) => skipToToken n { s with cursor := c, keyAllowed := s.keyAllowed || s.inBlock }

/-- The byte order mark at the start of a text is no part of it. -/
def skipByteOrderMark (s : Scan) : Scan :=
  if s.cursor.index = 0 && s.cursor.peek.any (·.toNat = 0xfeff) then s.forward 1 else s

/-! ### One token -/

/-- A directive. -/
def directive (s : Scan) : Except Error Scan := do
  let s ← (s.unwind (-1)).dropMark
  let (d, c) ← readDirective s.cursor.next
  return { s.emit (.directive d) with cursor := c, keyAllowed := false }

/-- The start or end of a document. -/
def documentMark (s : Scan) (token : Token) : Except Error Scan := do
  let s ← (s.unwind (-1)).dropMark
  return { (s.forward 3).emit token with keyAllowed := false }

/-- An opening bracket, which may begin a key. -/
def openBracket (s : Scan) (token : Token) : Except Error Scan := do
  let s ← s.saveMark
  return { (s.forward 1).emit token with depth := s.depth + 1, keyAllowed := true }

/-- A closing bracket. -/
def closeBracket (s : Scan) (token : Token) : Except Error Scan := do
  let s ← s.dropMark
  return { (s.forward 1).emit token with depth := s.depth - 1, keyAllowed := false }

/-- A comma between items. -/
def comma (s : Scan) : Except Error Scan := do
  let s ← s.dropMark
  return { (s.forward 1).emit .comma with keyAllowed := true }

/-- Begins a block at the cursor if the mark there is the first of one. In a block, the mark has to
stand where a key may. -/
def beginBlock (s : Scan) (start : Token) : Except Error Scan :=
  if s.inBlock then
    if s.keyAllowed then
      let (isNew, s) := s.openBlock s.cursor.column
      .ok (if isNew then s.emit start else s)
    else .error .malformed
  else .ok s

/-- The dash before an item of a block. -/
def dash (s : Scan) : Except Error Scan := do
  let s ← (← s.beginBlock .blockSequence).dropMark
  return { (s.forward 1).emit .dash with keyAllowed := true }

/-- The mark before a key that is no simple text. -/
def explicitKey (s : Scan) : Except Error Scan := do
  let s ← (← s.beginBlock .blockMapping).dropMark
  return { (s.forward 1).emit .key with keyAllowed := s.inBlock }

/-- The colon before a value. If a key can have begun, the tokens for it are put in place. -/
def colon (s : Scan) : Except Error Scan := do
  match s.marks.lookup s.depth with
  | some mark =>
    let s := { s with marks := s.marks.filter (·.1 ≠ s.depth) }
    let s := s.insertAt mark.place .key
    let (isNew, s) := if s.inBlock then s.openBlock mark.column else (false, s)
    let s := if isNew then s.insertAt mark.place .blockMapping else s
    return { (s.forward 1).emit .value with keyAllowed := false }
  | none =>
    let s ← (← s.beginBlock .blockMapping).dropMark
    return { (s.forward 1).emit .value with keyAllowed := s.inBlock }

/-- A token that may begin a key, by a reader for it. -/
def keyPart (s : Scan) (read : Cursor → Except Error (Token × Cursor)) : Except Error Scan := do
  let s ← s.saveMark
  let (token, c) ← read s.cursor
  return { s.emit token with cursor := c, keyAllowed := false }

/-- An alias, after its mark. -/
def readAlias (c : Cursor) : Except Error (Token × Cursor) := do
  let (name, c) ← readAnchor c.next
  return (.alias name, c)

/-- An anchor, after its mark. -/
def readAnchorToken (c : Cursor) : Except Error (Token × Cursor) := do
  let (name, c) ← readAnchor c.next
  return (.anchor name, c)

/-- A quoted scalar. -/
def readQuotedToken (mark : Char) (c : Cursor) : Except Error (Token × Cursor) := do
  let (text, c) ← readQuoted mark (c.rest.length + 1) c.next
  return (.scalar text false, c)

/-- A block scalar. A key may follow it. -/
def block (s : Scan) (folded : Bool) : Except Error Scan := do
  let s ← s.dropMark
  let (text, c) ← readBlock folded s.indent s.cursor.next
  return { s.emit (.scalar text false) with cursor := c, keyAllowed := true }

/-- A plain scalar. A key may follow it in a new line. -/
def plain (s : Scan) : Except Error Scan := do
  let s ← s.saveMark
  let c := s.cursor
  let scalar := readPlain (!s.inBlock) (s.indent + 1) { cursor := c } (c.rest.length + 1)
  return { s.emit (.scalar scalar.text true) with
    cursor := scalar.cursor
    keyAllowed := scalar.broken }

/-- A plain scalar can begin with a character, given the one after it. -/
def beginsPlain (s : Scan) (c : Char) (after : Option Char) : Bool :=
  !(endsToken (some c) || "-?:,[]\x7b\x7d#&*!|>'\"%@`".toList.contains c) ||
    (!endsToken after && (c = '-' || (s.inBlock && (c = '?' || c = ':'))))

/-- Reads the token that begins with a character. -/
def token (s : Scan) (c : Char) : Except Error Scan :=
  let after := s.cursor.peek 1
  let atStart := s.cursor.column = 0
  if c = '%' && atStart then s.directive
  else if c = '-' && atStart && s.cursor.atDocumentMark then s.documentMark .documentStart
  else if c = '.' && atStart && s.cursor.atDocumentMark then s.documentMark .documentEnd
  else if c = '[' then s.openBracket .openSequence
  else if c.toNat = 0x7b then s.openBracket .openMapping
  else if c = ']' then s.closeBracket .closeSequence
  else if c.toNat = 0x7d then s.closeBracket .closeMapping
  else if c = ',' then s.comma
  else if c = '-' && endsToken after then s.dash
  else if c = '?' && (!s.inBlock || endsToken after) then s.explicitKey
  else if c = ':' && (!s.inBlock || endsToken after) then s.colon
  else if c = '*' then s.keyPart readAlias
  else if c = '&' then s.keyPart readAnchorToken
  else if c = '!' then s.keyPart readTag
  else if c = '|' && s.inBlock then s.block false
  else if c = '>' && s.inBlock then s.block true
  else if c = '\'' || c = '"' then s.keyPart (readQuotedToken c)
  else if s.beginsPlain c after then s.plain
  else .error .malformed

/-- Reads tokens to the end of the text. -/
def run : Nat → Scan → Except Error (List Token)
  | 0, _ => .error .malformed
  | n + 1, s => do
    let s ← (s.skipByteOrderMark.skipToToken (s.cursor.rest.length + 1)).dropStale
    let s := s.unwind s.cursor.column
    match s.cursor.peek with
    | none =>
      let s ← (s.unwind (-1)).dropMark
      return s.found.reverse
    | some c => run n (← s.token c)

end Scan

/-- The tokens of a text. -/
def tokens (text : Text) : Except Error (List Token) :=
  if text.all isAllowed then Scan.run (text.length + 1) { cursor := { rest := text } }
  else .error .malformed

end OpsLint.Yaml
