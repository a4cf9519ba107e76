import OpsLint.Files.Tree
import OpsLint.Text.Lines
import OpsLint.Text.Utf8

/-!
# Loading files

A file is loaded if it exists, is not larger than allowed and can be read. Its bytes are taken for
UTF-8; a byte order mark at the start is dropped, and what is ill-formed is replaced, so that no
file is refused for its content. Its size is asked for before it is read. It does not change in
between.
-/

namespace OpsLint

/-- Why a file was not loaded. -/
inductive LoadError where
  | notFound
  | isDirectory
  | tooLarge (size limit : Nat)
  /-- The system refuses to have the file read. -/
  | refused (reason : Text)
deriving DecidableEq, Repr

/-- The wording of a refusal. -/
def LoadError.reason : LoadError → Text
  | .notFound => "file not found"
  | .isDirectory => "is a directory"
  | .tooLarge size limit =>
    "file is too large (" ++ Text.ofNat size ++ " bytes, limit " ++ Text.ofNat limit ++ ")"
  | .refused reason => "cannot read file: " ++ reason

/-- The lines of a file with the given bytes. -/
def linesOfBytes (bytes : List UInt8) : List Text :=
  Text.lines (Utf8.decodeLossy (Utf8.dropMark bytes))

/-- The text of a file as far as its kind is concerned: its lines, with line feeds between them. -/
def textOfLines (lines : List Text) : Text := Text.join "\n" lines

/-- Loads a file of at most `limit` bytes. -/
def FileTree.load (t : FileTree) (p : Path) (limit : Nat) : Except LoadError (List Text) :=
  match t.get? p with
  | none => .error .notFound
  | some (.dir _) => .error .isDirectory
  | some (.file bytes refusal) =>
    if limit < bytes.length then .error (.tooLarge bytes.length limit)
    else match refusal with
      | some reason => .error (.refused reason)
      | none => .ok (linesOfBytes bytes)

end OpsLint
