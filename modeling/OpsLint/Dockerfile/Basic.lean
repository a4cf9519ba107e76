import OpsLint.Diagnostic
import OpsLint.Dockerfile.Heredoc
import OpsLint.Reading
import OpsLint.Text.Case

/-!
# Dockerfiles

A Dockerfile is a sequence of instructions, each a keyword and its arguments. It may begin with
directives, comments of the form `# name = value`, one of which chooses the **escape character**
(`escape`): an instruction whose line ends in that character goes on in the next line that is
neither blank nor a comment. The bodies of heredocs follow the line in which their operators stand.

The state of a reading (`Phase`) says what the next line is: still a directive perhaps, the start of
an instruction, the rest of one, or a line of a heredoc body. An instruction is emitted when its
last line has been read. At the end of the file an instruction that was to be continued is taken as
it stands, and an open heredoc is reported and its body taken as it stands.

**Reading can fail.** An instruction of which nothing remains when the escape characters are taken
off has no keyword. A line that continues it supplies one, so this can only be met at the end of the
file (`ReadError.noKeyword`).

Definitions of build arguments are read and left out: no rule looks at them.
-/

namespace OpsLint

namespace Dockerfile

/-- The keywords of instructions. -/
def keywords : List Text :=
  ["FROM", "RUN", "CMD", "LABEL", "MAINTAINER", "EXPOSE", "ENV", "ADD", "COPY", "ENTRYPOINT",
   "VOLUME", "USER", "WORKDIR", "ARG", "ONBUILD", "STOPSIGNAL", "HEALTHCHECK", "SHELL"]

/-- The keywords of instructions that can have heredocs. -/
def heredocKeywords : List Text := ["RUN", "COPY", "ADD"]

/-- An instruction and the lines it takes up. -/
structure Instruction where
  keyword : Text
  arguments : Text
  line : Nat
  column : Nat
  endLine : Nat
deriving DecidableEq, Repr

/-- What is wrong with a part of a Dockerfile. -/
inductive Problem where
  | unterminatedHeredoc (word : Text)
  | unknownInstruction (word : Text)
  | noFrom
deriving DecidableEq, Repr

/-- The wording of a problem. -/
def Problem.message : Problem → Text
  | .unterminatedHeredoc word => "Unterminated heredoc '" ++ word ++ "'"
  | .unknownInstruction word => "Unknown instruction '" ++ word ++ "'"
  | .noFrom => "Dockerfile has no FROM instruction"

/-- A problem with its place. -/
structure Fault where
  line : Nat
  column : Nat
  problem : Problem
deriving DecidableEq, Repr

/-- Why a Dockerfile cannot be read. -/
inductive ReadError where
  /-- The last instruction consists of escape characters only. -/
  | noKeyword
deriving DecidableEq, Repr

/-- The wording of a failure. -/
def ReadError.message : ReadError → Text
  | .noKeyword => "list index out of range"

/-- What is found in a Dockerfile. -/
inductive Item where
  | instruction (instruction : Instruction)
  | fault (fault : Fault)
deriving DecidableEq, Repr

/-! ## Instructions -/

/-- Where an instruction begins. -/
structure Place where
  line : Nat
  column : Nat
deriving DecidableEq, Repr

/-- An instruction whose text is complete: its first word as written and what follows it. -/
structure Statement where
  place : Place
  word : Text
  arguments : Text
deriving DecidableEq, Repr

namespace Statement

/-- The keyword of a statement. -/
def keyword (s : Statement) : Text := Text.capitals s.word

/-- The words of its heredocs, if it can have any. -/
def heredocs (s : Statement) : List Text :=
  if heredocKeywords.contains s.keyword then heredocWords s.arguments else []

/-- What a statement with the lines of its heredoc bodies is. -/
def emit (s : Statement) (body : List Text) (endLine : Nat) : List Item :=
  if s.keyword = "ARG" then []
  else if keywords.contains s.keyword then
    [.instruction {
      keyword := s.keyword
      arguments := if body.isEmpty then s.arguments else s.arguments ++ "\n" ++ Text.join "\n" body
      line := s.place.line
      column := s.place.column
      endLine }]
  else [.fault ⟨s.place.line, s.place.column, .unknownInstruction s.word⟩]

end Statement

/-- The statement of a text that is not blank. -/
def statement? (place : Place) (text : Text) : Option Statement :=
  let (word, arguments) := Text.firstWord text
  if word.isEmpty then none else some { place, word, arguments }

/-! ## Line by line -/

/-- What the next line belongs to. -/
inductive Phase where
  /-- Nothing but directives has been read. -/
  | directives
  /-- No instruction is open. -/
  | idle
  /-- An instruction to be continued, and its text without the escape character at its end. -/
  | continued (place : Place) (text : Text)
  /-- The body of a heredoc: the statement it belongs to, its word, the words of the bodies to come,
  and the lines of all bodies so far, last line first. -/
  | heredoc (statement : Statement) (word : Text) (later : List Text) (body : List Text)
deriving DecidableEq, Repr

/-- What later lines depend on. -/
structure State where
  escape : Char := '\\'
  phase : Phase := .directives
deriving DecidableEq, Repr

/-- The name and the value of a directive. -/
def directive? (body : Text) : Option (Text × Text) :=
  match body with
  | '#' :: s =>
    let s := Text.trimLeft s
    let name := s.takeWhile Char.isAlpha
    match Text.trimLeft (s.dropWhile Char.isAlpha) with
    | '=' :: rest =>
      let value := Text.trim rest
      if name.isEmpty || value.isEmpty || value.any Text.isBlank then none else some (name, value)
    | _ => none
  | _ => none

/-- The escape character that a directive chooses. -/
def escapeOf? (name value : Text) : Option Char :=
  if Text.lower name = "escape" then
    match value with
    | [c] => if c = '\\' || c.toNat = 0x60 then some c else none
    | _ => none
  else none

/-- A trimmed line that is blank or a comment. -/
def isIgnored (body : Text) : Bool := body.isEmpty || body.head? = some '#'

/-- Goes on after a complete statement: with the body of its first heredoc, or with nothing open. -/
def State.afterStatement (st : State) (line : Nat) (s : Statement) : State × List Item :=
  match s.heredocs with
  | [] => ({ st with phase := .idle }, s.emit [] line)
  | word :: later => ({ st with phase := .heredoc s word later [] }, [])

/-- Goes on with the text of an instruction that has been read up to a given line. -/
def State.text (st : State) (line : Nat) (place : Place) (text : Text) : State × List Item :=
  if Text.endsWith text st.escape then
    ({ st with phase := .continued place (Text.trimRight text.dropLast) }, [])
  else match statement? place text with
    | some s => st.afterStatement line s
    | none => ({ st with phase := .idle }, [])

/-- Reads a line when no instruction is open. -/
def State.start (st : State) (line : Nat) (raw : Text) : State × List Item :=
  let body := Text.trim raw
  if isIgnored body then ({ st with phase := .idle }, [])
  else st.text line ⟨line, raw.length - (Text.trimLeft raw).length + 1⟩ body

/-- Reads one line. -/
def step : LineStep State Item := fun line raw st =>
  match st.phase with
  | .directives =>
    match directive? (Text.trim raw) with
    | some (name, value) => ({ st with escape := (escapeOf? name value).getD st.escape }, [])
    | none => st.start line raw
  | .idle => st.start line raw
  | .continued place text =>
    let body := Text.trim raw
    if isIgnored body then (st, []) else st.text line place (text ++ " " ++ body)
  | .heredoc s word later body =>
    if Text.trim raw = word then
      match later with
      | [] => ({ st with phase := .idle }, s.emit body.reverse line)
      | next :: later => ({ st with phase := .heredoc s next later body }, [])
    else ({ st with phase := .heredoc s word later (raw :: body) }, [])

/-- What an open heredoc amounts to at the end of the file. -/
def unterminated (s : Statement) (word : Text) (body : List Text) (lineCount : Nat) : List Item :=
  .fault ⟨s.place.line, s.place.column, .unterminatedHeredoc word⟩ :: s.emit body lineCount

/-- What is still open at the end of a file of `lineCount` lines. -/
def State.finish (st : State) (lineCount : Nat) : Except ReadError (List Item) :=
  match st.phase with
  | .directives | .idle => .ok []
  | .continued place text =>
    match statement? place text with
    | none => .error .noKeyword
    | some s =>
      match s.heredocs with
      | [] => .ok (s.emit [] lineCount)
      | word :: _ => .ok (unterminated s word [] lineCount)
  | .heredoc s word _ body => .ok (unterminated s word body.reverse lineCount)

/-- The items of a Dockerfile, in the order of the lines. -/
def items (lines : List Text) : Except ReadError (List Item) :=
  let r := Reading.ofLines step {} lines
  (r.state.finish r.count).map (r.items ++ ·)

/-- The instruction that an item is. -/
def Item.instruction? : Item → Option Instruction
  | .instruction i => some i
  | .fault _ => none

/-- The fault that an item is. -/
def Item.fault? : Item → Option Fault
  | .instruction _ => none
  | .fault f => some f

end Dockerfile

/-- A Dockerfile that has been read. -/
structure Dockerfile where
  instructions : List Dockerfile.Instruction := []
  faults : List Dockerfile.Fault := []

namespace Dockerfile

/-- The instructions of a given keyword. -/
def find (d : Dockerfile) (keyword : Text) : List Instruction :=
  d.instructions.filter (·.keyword = keyword)

/-- There is an instruction of a given keyword. -/
def has (d : Dockerfile) (keyword : Text) : Bool := d.instructions.any (·.keyword = keyword)

/-- A Dockerfile without a base image is reported as a whole. -/
def ofItems (items : List Item) : Dockerfile :=
  let d : Dockerfile :=
    { instructions := items.filterMap Item.instruction?, faults := items.filterMap Item.fault? }
  if d.has "FROM" then d else { d with faults := d.faults ++ [⟨1, 0, .noFrom⟩] }

/-- Reads a Dockerfile. -/
def ofLines (lines : List Text) : Except ReadError Dockerfile := (items lines).map ofItems

/-- The problems of a Dockerfile as findings. -/
def findings (d : Dockerfile) : List Finding :=
  d.faults.map fun f => { line := f.line, column := f.column, message := f.problem.message }

end Dockerfile

end OpsLint
