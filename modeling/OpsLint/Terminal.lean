import OpsLint.Diagnostic

/-!
# Lines on a terminal

On a terminal a diagnostic is one line that ends in the identifier of its rule. Characters that
would move the cursor about are left out, and a tab moves to the next column that is a multiple of
eight.

In messages about the run as a whole a word in square brackets sets a style, so it is not shown,
unless there is a backslash before it.
-/

namespace OpsLint

/-- A character that would ring the bell or move the cursor other than forward. -/
def isCursorControl (c : Char) : Bool :=
  let n := c.toNat
  n == 7 || n == 8 || n == 11 || n == 12 || n == 13

/-- A text without the characters that would move the cursor. -/
def withoutControls (s : Text) : Text := s.filter (!isCursorControl ·)

/-- A diagnostic as it is shown on a terminal. -/
def Diagnostic.terminalText (d : Diagnostic) : Text :=
  withoutControls (d.format ++ " (" ++ d.ruleId ++ ")")

/-- The width of a column of tabs. -/
def tabWidth : Nat := 8

/-- A text with spaces for tabs, from a column on. -/
def expandTabs (column : Nat) : Text → Text
  | [] => []
  | '\t' :: s =>
    let width := tabWidth - column % tabWidth
    List.replicate width ' ' ++ expandTabs (column + width) s
  | c :: s => c :: expandTabs (column + 1) s

/-- A text as one line of a terminal. -/
def terminalLine (s : Text) : Text := expandTabs 0 (withoutControls s)

/-! ## Styles -/

/-- A character that can begin the name of a style. -/
def beginsStyle (c : Char) : Bool := ('a' ≤ c && c ≤ 'z') || c = '#' || c = '/' || c = '@'

/-- The rest of a text after a style in square brackets, of which the opening one has been read. -/
def afterStyle? : Text → Option Text
  | [] => none
  | c :: s =>
    let body := s.takeWhile fun c => c ≠ ']' && c ≠ '['
    match s.drop body.length with
    | ']' :: rest => if beginsStyle c then some rest else none
    | _ => none

/-- A text without its styles. Of the backslashes before a style every second one is shown, and an
odd one makes the style part of the text. -/
def withoutStyles : Nat → Text → Text
  | 0, _ => []
  | _, [] => []
  | n + 1, c :: s =>
    let slashes := (c :: s).takeWhile (· = '\\')
    match (c :: s).drop slashes.length with
    | '[' :: rest =>
      match afterStyle? rest with
      | some after =>
        let shown := List.replicate (slashes.length / 2) '\\'
        if slashes.length % 2 = 0 then shown ++ withoutStyles n after
        else shown ++ '[' :: (rest.take (rest.length - after.length) ++ withoutStyles n after)
      | none => slashes.dropLast ++ '[' :: withoutStyles n rest
    | rest =>
      if slashes.isEmpty then c :: withoutStyles n s else slashes ++ withoutStyles n rest

/-- A message as it is shown on a terminal: the first line of it, without styles. -/
def messageLine (s : Text) : Text :=
  terminalLine ((withoutStyles (s.length + 1) s).takeWhile (· ≠ '\n'))

end OpsLint
