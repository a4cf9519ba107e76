/-!
# Text

A text is the list of its characters. Lengths and columns count characters, and cutting a text
up is an operation on lists, so that what a reader does to a line can be said with `++`,
`takeWhile` and `dropWhile`.

The operations here come in two families. **Blanks** (`isBlank`) separate words: `trim` removes
them from the ends, `words` cuts at every run of them, and `firstWord` cuts at the first run only.
**Separators** are single characters: `cut?` cuts at the first occurrence and `splitOn` at every
occurrence.
-/

namespace OpsLint

/-- A text, as the list of its characters. -/
abbrev Text := List Char

instance : Coe String Text := ⟨String.toList⟩

instance : LawfulBEq Text := inferInstanceAs (LawfulBEq (List Char))

namespace Text

/-! ## Blanks -/

/-- The characters that separate words: the ASCII blanks, the four information separators, and the
space characters and line separators of Unicode. The zero-width characters are not among them. -/
def isBlank (c : Char) : Bool :=
  let n := c.toNat
  (9 ≤ n && n ≤ 13) || (0x1c ≤ n && n ≤ 0x20) || n == 0x85 || n == 0xa0 || n == 0x1680 ||
    (0x2000 ≤ n && n ≤ 0x200a) || n == 0x2028 || n == 0x2029 || n == 0x202f || n == 0x205f ||
    n == 0x3000

/-- A text without its leading blanks. -/
def trimLeft (s : Text) : Text := s.dropWhile isBlank

/-- A text without its trailing blanks. -/
def trimRight (s : Text) : Text := (s.reverse.dropWhile isBlank).reverse

/-- A text without its leading and trailing blanks. -/
def trim (s : Text) : Text := trimRight (trimLeft s)

/-- The words of a text: its maximal runs of characters that are not blank. -/
def words : Text → List Text
  | [] => []
  | c :: s =>
    if isBlank c then words s
    else match s, words s with
      | d :: _, w :: ws => if isBlank d then [c] :: w :: ws else (c :: w) :: ws
      | _, ws => [c] :: ws

/-- The first word of a text, and what follows it from the next word on. -/
def firstWord (s : Text) : Text × Text :=
  let body := trimLeft s
  (body.takeWhile (!isBlank ·), trimLeft (body.dropWhile (!isBlank ·)))

/-! ## Separators -/

/-- The parts of a text before and after the first occurrence of a character. -/
def cut? (sep : Char) (s : Text) : Option (Text × Text) :=
  match s.dropWhile (· ≠ sep) with
  | [] => none
  | _ :: rest => some (s.takeWhile (· ≠ sep), rest)

/-- The part of a text before the first occurrence of a character, or all of it. -/
def before (sep : Char) (s : Text) : Text := s.takeWhile (· ≠ sep)

/-- The parts of a text between the occurrences of a character; there is one more part than there
are occurrences. -/
def splitOn (sep : Char) : Text → List Text
  | [] => [[]]
  | c :: s =>
    if c = sep then [] :: splitOn sep s
    else match splitOn sep s with
      | [] => [[c]]
      | w :: ws => (c :: w) :: ws

/-- The texts of a list, with a separator between neighbours. -/
def join (sep : Text) (parts : List Text) : Text := List.intercalate sep parts

/-! ## Occurrences -/

/-- What follows `start` in `s`, if `s` begins with it. -/
def dropStart? : Text → Text → Option Text
  | [], s => some s
  | _ :: _, [] => none
  | p :: start, c :: s => if p = c then dropStart? start s else none

/-- `s` begins with `start`. -/
def startsWith (s start : Text) : Bool := (dropStart? start s).isSome

/-- `s` ends in the character `c`. -/
def endsWith (s : Text) (c : Char) : Bool := s.getLast? == some c

/-- `s` has `part` as a run of consecutive characters. -/
def hasInfix (part : Text) : Text → Bool
  | [] => part.isEmpty
  | c :: s => startsWith (c :: s) part || hasInfix part s

/-! ## Numbers and order -/

/-- The decimal digits of a natural number. -/
def ofNat (n : Nat) : Text := Nat.toDigits 10 n

/-- The decimal digits of an integer, after a minus sign if it is negative. -/
def ofInt : Int → Text
  | .ofNat n => ofNat n
  | .negSucc n => '-' :: ofNat (n + 1)

/-- A text may stand before another in the order of character codes. -/
def le (a b : Text) : Bool := (compare a b).isLE

/-- The texts of a list in order of character codes, each of them once. -/
def sortedSet (texts : List Text) : List Text := texts.eraseDups.mergeSort le

end Text

end OpsLint
