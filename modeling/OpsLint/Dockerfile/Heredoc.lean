import OpsLint.Text.Identifier

/-!
# Heredoc words

A heredoc operator is `<<`, an optional hyphen and a word, bare or between quotes of one sort. The
lines after the instruction up to the one that consists of the word are its body. An instruction can
have several operators, and their bodies follow one another in order.
-/

namespace OpsLint.Dockerfile

/-- The word at the start of a text, bare or quoted, and the number of characters it takes. -/
def heredocWord? (s : Text) : Option (Text × Nat) :=
  match s with
  | '"' :: s => do
    let (word, rest) ← Text.takeIdentifier? s
    if rest.head? = some '"' then some (word, word.length + 2) else none
  | '\'' :: s => do
    let (word, rest) ← Text.takeIdentifier? s
    if rest.head? = some '\'' then some (word, word.length + 2) else none
  | s => do
    let (word, _) ← Text.takeIdentifier? s
    some (word, word.length)

/-- The operator at the start of a text: its word, and the number of characters it takes. -/
def heredocOperator? (s : Text) : Option (Text × Nat) :=
  match s with
  | '<' :: '<' :: '-' :: s => (heredocWord? s).map fun (word, size) => (word, size + 3)
  | '<' :: '<' :: s => (heredocWord? s).map fun (word, size) => (word, size + 2)
  | _ => none

/-- The words of the operators in a text of which the first `skip` characters belong to an operator
already read. -/
def heredocWordsFrom (skip : Nat) : Text → List Text
  | [] => []
  | c :: s =>
    if skip ≠ 0 then heredocWordsFrom (skip - 1) s
    else match heredocOperator? (c :: s) with
      | some (word, size) => word :: heredocWordsFrom (size - 1) s
      | none => heredocWordsFrom 0 s

/-- The words of the heredoc operators in a text, from left to right. -/
def heredocWords (s : Text) : List Text := heredocWordsFrom 0 s

end OpsLint.Dockerfile
