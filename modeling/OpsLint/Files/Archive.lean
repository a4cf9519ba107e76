import OpsLint.Files.Tree
import OpsLint.Text.Utf8

/-!
# Archives

A file tree can come as a tape archive: a sequence of blocks of 512 bytes in which every file has a
header, with its name and its size, and then its bytes, filled up to whole blocks. A block of zeros
ends the archive. Only files and directories are taken out of it.
-/

namespace OpsLint.Archive

/-- The size of a block. -/
def blockSize : Nat := 512

/-- The bytes of a field of a header, up to the first zero. -/
def field (start size : Nat) (header : List UInt8) : List UInt8 :=
  ((header.drop start).take size).takeWhile (· ≠ 0)

/-- The text of a field. -/
def textField (start size : Nat) (header : List UInt8) : Text :=
  Utf8.decodeLossy (field start size header)

/-- The number in a field, which is written in octal digits. -/
def numberField (start size : Nat) (header : List UInt8) : Nat :=
  ((field start size header).filter fun b => 48 ≤ b.toNat && b.toNat ≤ 55).foldl
    (fun n b => 8 * n + (b.toNat - 48)) 0

/-- The path of an entry. A long one is in two fields. -/
def entryPath (header : List UInt8) : Path :=
  let name := textField 0 100 header
  let above := if textField 257 5 header = ("ustar" : Text) then textField 345 155 header else []
  Path.ofText (if above.isEmpty then name else above ++ "/" ++ name)

/-- Puts an entry into the entries of the root. -/
def putEntry (header content : List UInt8) (entries : List (Text × Node)) : List (Text × Node) :=
  let path := (entryPath header).normal
  match (header.drop 156).head?.map UInt8.toNat with
  | some 0 | some 48 => Node.putFile path content entries
  | some 53 => Node.putDir path entries
  | _ => entries

/-- Reads entries, at most as many as there are blocks. -/
def readEntries : Nat → List UInt8 → List (Text × Node) → List (Text × Node)
  | 0, _, entries => entries
  | n + 1, bytes, entries =>
    let header := bytes.take blockSize
    if header.all (· = 0) then entries
    else
      let size := numberField 124 12 header
      let rest := bytes.drop blockSize
      let blocks := (size + blockSize - 1) / blockSize
      readEntries n (rest.drop (blocks * blockSize)) (putEntry header (rest.take size) entries)

/-- The tree of an archive, whose root is the working directory. -/
def toTree (bytes : List UInt8) : FileTree :=
  .ofEntries [] (readEntries (bytes.length / blockSize + 1) bytes [])

end OpsLint.Archive
